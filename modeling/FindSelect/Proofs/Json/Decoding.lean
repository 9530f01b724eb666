import FindSelect.Proofs.FirstError
import FindSelect.Proofs.Json.Shape
import FindSelect.Proofs.Json.Written

/-!
# Decoding values

A reader decodes a value when it gives one outcome on every text of the value, whatever stands
before and after, and leaves what stands after. What a reader of lists or of documents decodes
follows from what it decodes inside them.

* `Decodes`, `Enters`, `Fills`: what a reader does on a value, on an entry, on a row of entries;
* `decodes_items`, `decodes_entries`: a reader of lists or of documents, from what it does with their
  members;
* `exists_decodes_value`: whatever the reader of all values makes of a value, it stops at the end of
  its text;
* **`decodes_value`**: it gives a plain value back when that does not nest too deeply, and finds its
  text malformed when it does.
-/

namespace FindSelect.Reader

variable {α β σ ι : Type}

/-! ## Outcomes on texts -/

/-- On every text of a value a reader gives the same outcome, and it stops at the end of the
text. -/
def Decodes (reader : Reader α) (v : Json) (outcome : Except Fault α) : Prop :=
  ∀ text, Written v text → ∀ ws rest, Blank ws → Ended rest →
    reader (ws ++ (text ++ rest)) = outcome.map (·, rest)

/-- The same for the colon of an entry and its value. -/
def Enters (reader : Reader α) (v : Json) (outcome : Except Fault α) : Prop :=
  ∀ text, Written v text → ∀ ws ws' rest, Blank ws → Blank ws' → Ended rest →
    reader (ws ++ ':' :: (ws' ++ (text ++ rest))) = outcome.map (·, rest)

theorem next_blank_cons {ws : List Char} {c : Char} (hws : Blank ws) (hc : isBlank c = false)
    (cs : List Char) : next (ws ++ c :: cs) = .ok (some c, c :: cs) := by
  rw [next_blank hws, next_cons hc]

theorem decodes_next {f : Option Char → Reader α} {v : Json} {outcome : Except Fault α}
    (h : ∀ text, Written v text → ∃ c cs reader, text = c :: cs ∧ isBlank c = false ∧
      f (some c) = reader ∧
      ∀ rest, Ended rest → reader (c :: (cs ++ rest)) = outcome.map (·, rest)) :
    Decodes (next >>= f) v outcome := by
  intro text htext ws rest hws hrest
  obtain ⟨c, cs, reader, rfl, hc, rfl, hreader⟩ := h text htext
  rw [List.cons_append, bind_ok (next_blank_cons hws hc _)]
  exact hreader rest hrest

theorem Decodes.map {reader : Reader α} {v : Json} {outcome : Except Fault α}
    (h : Decodes reader v outcome) (g : α → β) :
    Decodes (do return g (← reader)) v (outcome.map g) := by
  intro text htext ws rest hws hrest
  have hreader := h text htext ws rest hws hrest
  cases outcome with
  | ok a => exact bind_ok hreader
  | error fault => exact bind_error hreader

theorem Enters.map {reader : Reader α} {v : Json} {outcome : Except Fault α}
    (h : Enters reader v outcome) (g : α → β) :
    Enters (do return g (← reader)) v (outcome.map g) := by
  intro text htext ws ws' rest hws hws' hrest
  have hreader := h text htext ws ws' rest hws hws' hrest
  cases outcome with
  | ok a => exact bind_ok hreader
  | error fault => exact bind_error hreader

theorem colon_cons {ws : List Char} (hws : Blank ws) (cs : List Char) :
    colon (ws ++ ':' :: cs) = .ok ((), cs) := by
  rw [colon, bind_ok (next_blank_cons hws rfl _)]
  rfl

theorem closeDocument_cons {ws : List Char} (hws : Blank ws) (cs : List Char) :
    closeDocument (ws ++ '}' :: cs) = .ok ((), cs) := by
  rw [closeDocument, bind_ok (next_blank_cons hws rfl _)]
  rfl

theorem Decodes.enters {reader : Reader α} {v : Json} {outcome : Except Fault α}
    (h : Decodes reader v outcome) : Enters (do colon; reader) v outcome := by
  intro text htext ws ws' rest hws hws' hrest
  rw [bind_ok (colon_cons hws _)]
  exact h text htext ws' rest hws' hrest

/-! ## Scalars -/

theorem stringTail_stringChars (s : String) (rest : List Char) :
    stringTail ((s.toList.flatMap escapedChar ++ ['"']) ++ rest) = .ok (s, rest) := by
  rw [List.append_assoc, List.singleton_append, stringTail_escaped]

theorem decodes_nullWord {f : Option Char → Reader α} (a : α)
    (hf : f (some 'n') = do word "null".toList; return a) :
    Decodes (next >>= f) .null (.ok a) := by
  refine decodes_next fun text htext => ?_
  cases htext
  exact ⟨'n', "ull".toList, _, rfl, rfl, hf,
    fun rest _ => bind_ok (word_append "null".toList rest)⟩

theorem decodes_booleanWord {f : Option Char → Reader α} (g : Bool → α)
    (htrue : f (some 't') = do word "true".toList; return g true)
    (hfalse : f (some 'f') = do word "false".toList; return g false) (b : Bool) :
    Decodes (next >>= f) (.boolean b) (.ok (g b)) := by
  refine decodes_next fun text htext => ?_
  cases htext
  cases b with
  | true =>
    exact ⟨'t', "rue".toList, _, rfl, rfl, htrue,
      fun rest _ => bind_ok (word_append "true".toList rest)⟩
  | false =>
    exact ⟨'f', "alse".toList, _, rfl, rfl, hfalse,
      fun rest _ => bind_ok (word_append "false".toList rest)⟩

section Scalars

variable (list document : Reader Json)

theorem decodes_null : Decodes (valueWith list document) .null (.ok .null) :=
  decodes_nullWord Json.null rfl

theorem decodes_boolean (b : Bool) :
    Decodes (valueWith list document) (.boolean b) (.ok (.boolean b)) :=
  decodes_booleanWord Json.boolean rfl rfl b

theorem decodes_number {n : Number} {outcome : Except Fault Number}
    (h : ∀ rest, Ended rest → number (n.chars ++ rest) = outcome.map (·, rest)) :
    Decodes (valueWith list document) (.number n) (outcome.map .number) := by
  refine decodes_next fun text htext => ?_
  cases htext
  obtain ⟨c, cs, hcs, hc⟩ := numberChars_head n
  refine ⟨c, cs, do return .number (← number), hcs, isBlank_of_startsNumber hc, ?_, ?_⟩
  · -- the characters that are looked for before those of numbers begin no number
    have hne : ∀ d, startsNumber d = false → c ≠ d := fun d hd => ne_of_startsNumber hc hd
    split
    next heq => cases heq
    next heq => cases heq; exact absurd rfl (hne _ rfl)
    next heq => cases heq; exact absurd rfl (hne _ rfl)
    next heq => cases heq; exact absurd rfl (hne _ rfl)
    next heq => cases heq; exact absurd rfl (hne _ rfl)
    next heq => cases heq; exact absurd rfl (hne _ rfl)
    next heq => cases heq; exact absurd rfl (hne _ rfl)
    next heq => cases heq; rw [if_pos hc]
  · intro rest hrest
    have hnumber := h rest hrest
    rw [hcs, List.cons_append] at hnumber
    cases outcome with
    | ok m => exact bind_ok hnumber
    | error fault => exact bind_error hnumber

theorem decodes_stringValue (s : String) :
    Decodes (valueWith list document) (.string s) (.ok (.string s)) := by
  refine decodes_next fun text htext => ?_
  cases htext
  refine ⟨'"', _, _, rfl, rfl, rfl, fun rest _ => ?_⟩
  exact (bind_ok rfl).trans (bind_ok (stringTail_stringChars s rest))

end Scalars

/-! ## Items of a list -/

theorem another_separator {first : Bool} {sep ws : List Char} {c : Char}
    (hsep : Separator first sep) (hws : Blank ws) (hc : isBlank c = false) (hne : c ≠ ']')
    (cs : List Char) :
    another first (sep ++ (ws ++ c :: cs)) = .ok (true, c :: cs) := by
  cases hsep with
  | start =>
    rw [List.nil_append, another, bind_ok (next_blank_cons hws hc cs)]
    simp only [if_true]
    rfl
  | comma hcomma =>
    rw [List.append_assoc, List.singleton_append, another,
      bind_ok (next_blank_cons hcomma rfl _)]
    refine (bind_ok rfl).trans ((bind_ok (next_blank_cons hws hc cs)).trans ?_)
    simp only
    rfl

theorem another_close {ws : List Char} (hws : Blank ws) (first : Bool) (rest : List Char) :
    another first (ws ++ ']' :: rest) = .ok (false, ']' :: rest) := by
  rw [another, bind_ok (next_blank_cons hws rfl rest)]
  rfl

theorem WrittenItems.ended {items : List Json} {body rest : List Char}
    (h : WrittenItems false items body) (hrest : Ended rest) : Ended (body ++ rest) := by
  cases h with
  | nil => exact hrest
  | cons hsep _ _ _ =>
    cases hsep with
    | comma hws =>
      rw [List.append_assoc, List.append_assoc]
      exact ended_blank_append hws (ended_cons (.inl rfl) _)

theorem WrittenItems.length_le {first : Bool} {items : List Json} :
    ∀ {body : List Char}, WrittenItems first items body → items.length ≤ body.length := by
  induction items generalizing first with
  | nil => exact fun _ => Nat.zero_le _
  | cons v items ih =>
    intro body h
    cases h with
    | cons _ _ htext hbody =>
      obtain ⟨c, cs, rfl, -⟩ := htext.head
      have := ih hbody
      simp only [List.length_append, List.length_cons]
      omega

theorem itemsWithin_written {item : Reader α} {toJson : ι → Json} {outcome : ι → Except Fault α}
    {ws : List Char} (hws : Blank ws) (rest : List Char) {xs : List ι}
    (hitem : ∀ x ∈ xs, Decodes item (toJson x) (outcome x)) :
    ∀ {first : Bool} {body : List Char} {bound : Nat},
      WrittenItems first (xs.map toJson) body → xs.length ≤ bound →
      itemsWithin item (bound + 1) first (body ++ (ws ++ ']' :: rest)) =
        (xs.mapM outcome).map (·, ']' :: rest) := by
  induction xs with
  | nil =>
    intro first body bound h _
    cases h
    rw [List.nil_append, itemsWithin, bind_ok (another_close hws first rest)]
    rfl
  | cons x xs ih =>
    intro first body bound h hbound
    rw [List.length_cons] at hbound
    obtain ⟨bound, rfl⟩ : ∃ m, bound = m + 1 := ⟨bound - 1, by omega⟩
    rw [List.forall_mem_cons] at hitem
    cases h with
    | @cons _ _ _ sep ws' text body hsep hws' htext hbody =>
      have hrest : Ended (body ++ (ws ++ ']' :: rest)) :=
        hbody.ended (ended_blank_append hws (ended_cons (.inr (.inl rfl)) _))
      have hx := hitem.1 text htext [] _ blank_nil hrest
      obtain ⟨c, cs, rfl, hc, hne, -⟩ := htext.head
      simp only [List.append_assoc, List.cons_append, List.nil_append] at hx ⊢
      rw [itemsWithin, bind_ok (another_separator hsep hws' hc hne _), if_pos rfl]
      cases hox : outcome x with
      | error fault =>
        rw [hox] at hx
        rw [bind_error hx, mapM_cons_of_error hox]
        rfl
      | ok a =>
        rw [hox] at hx
        have htail := ih hitem.2 hbody (Nat.le_of_succ_le_succ hbound)
        rw [bind_ok hx, mapM_cons_of_ok hox]
        cases hoxs : xs.mapM outcome with
        | error fault =>
          rw [hoxs] at htail
          rw [bind_error htail]
          rfl
        | ok as =>
          rw [hoxs] at htail
          rw [bind_ok htail]
          rfl

theorem items_written {item : Reader α} (toJson : ι → Json) {outcome : ι → Except Fault α}
    {xs : List ι} {body ws : List Char} (hitem : ∀ x ∈ xs, Decodes item (toJson x) (outcome x))
    (hbody : WrittenItems true (xs.map toJson) body) (hws : Blank ws) (rest : List Char) :
    items item (body ++ (ws ++ ']' :: rest)) = (xs.mapM outcome).map (·, ']' :: rest) := by
  refine itemsWithin_written hws rest hitem hbody ?_
  have := hbody.length_le
  rw [List.length_map] at this
  rw [List.length_append]
  omega

theorem decodes_items {f : Option Char → Reader β} {item : Reader α} (g : List α → β)
    (hf : ∀ cs, f (some '[') ('[' :: cs) =
      (do let as ← items item; closeList; return g as : Reader β) cs)
    (toJson : ι → Json) {outcome : ι → Except Fault α} {xs : List ι}
    (hitem : ∀ x ∈ xs, Decodes item (toJson x) (outcome x)) :
    Decodes (next >>= f) (.list (xs.map toJson)) ((xs.mapM outcome).map g) := by
  refine decodes_next fun text htext => ?_
  generalize hvs : xs.map toJson = vs at htext
  cases htext with
  | @list _ body ws hbody hws =>
    subst hvs
    refine ⟨'[', _, _, rfl, rfl, rfl, fun rest _ => ?_⟩
    have hitems := items_written toJson hitem hbody hws rest
    rw [List.append_assoc, List.append_assoc, List.singleton_append, hf]
    cases hoxs : xs.mapM outcome with
    | ok as =>
      rw [hoxs] at hitems
      exact bind_ok hitems
    | error fault =>
      rw [hoxs] at hitems
      exact bind_error hitems

/-! ## Entries of a document -/

/-- What reading the entries of a document makes of a state: every entry changes it, until one of
them fails. -/
inductive Fills (entry : String → σ → Reader σ) : σ → Entries → Except Fault σ → Prop
  | nil {s : σ} : Fills entry s [] (.ok s)
  | cons {s t : σ} {key : String} {v : Json} {entries : Entries} {outcome : Except Fault σ} :
      Enters (entry key s) v (.ok t) → Fills entry t entries outcome →
      Fills entry s ((key, v) :: entries) outcome
  | fail {s : σ} {key : String} {v : Json} {entries : Entries} {fault : Fault} :
      Enters (entry key s) v (.error fault) → Fills entry s ((key, v) :: entries) (.error fault)

theorem anotherKey_separator {first : Bool} {sep ws : List Char} (hsep : Separator first sep)
    (hws : Blank ws) (cs : List Char) :
    anotherKey first (sep ++ (ws ++ '"' :: cs)) = .ok (true, cs) := by
  cases hsep with
  | start =>
    rw [List.nil_append, anotherKey, bind_ok (next_blank_cons hws rfl cs)]
    rfl
  | comma hcomma =>
    rw [List.append_assoc, List.singleton_append, anotherKey,
      bind_ok (next_blank_cons hcomma rfl _)]
    exact (bind_ok rfl).trans (bind_ok (next_blank_cons hws rfl cs))

theorem anotherKey_close {ws : List Char} (hws : Blank ws) (first : Bool) (rest : List Char) :
    anotherKey first (ws ++ '}' :: rest) = .ok (false, '}' :: rest) := by
  rw [anotherKey, bind_ok (next_blank_cons hws rfl rest)]
  rfl

theorem WrittenEntries.ended {entries : Entries} {body rest : List Char}
    (h : WrittenEntries false entries body) (hrest : Ended rest) : Ended (body ++ rest) := by
  cases h with
  | nil => exact hrest
  | cons hsep _ _ _ _ _ =>
    cases hsep with
    | comma hws =>
      rw [List.append_assoc, List.append_assoc]
      exact ended_blank_append hws (ended_cons (.inl rfl) _)

theorem WrittenEntries.length_le {first : Bool} {entries : Entries} :
    ∀ {body : List Char}, WrittenEntries first entries body → entries.length ≤ body.length := by
  induction entries generalizing first with
  | nil => exact fun _ => Nat.zero_le _
  | cons e entries ih =>
    intro body h
    cases h with
    | cons _ _ _ _ _ hbody =>
      have := ih hbody
      simp only [List.length_append, List.length_cons]
      omega

theorem entriesWithin_cons {entry : String → σ → Reader σ} {s : σ} {key : String} {v : Json}
    {entries : Entries} {outcome : Except Fault σ} (henter : Enters (entry key s) v outcome)
    {first : Bool} {body rest : List Char} (h : WrittenEntries first ((key, v) :: entries) body)
    (hrest : Ended rest) (bound : Nat) :
    ∃ body', WrittenEntries false entries body' ∧
      entriesWithin stringTail entry (bound + 1) first s (body ++ rest) =
        outcome.bind fun t => entriesWithin stringTail entry bound false t (body' ++ rest) := by
  cases h with
  | @cons _ _ _ _ sep ws₁ ws₂ ws₃ text body hsep h₁ h₂ h₃ htext hbody =>
    refine ⟨body, hbody, ?_⟩
    have hkey := stringTail_stringChars key (ws₂ ++ ':' :: (ws₃ ++ (text ++ (body ++ rest))))
    have hentry := henter text htext ws₂ ws₃ _ h₂ h₃ (hbody.ended hrest)
    simp only [stringChars, List.append_assoc, List.cons_append] at hkey ⊢
    rw [entriesWithin, bind_ok (anotherKey_separator hsep h₁ _), if_pos rfl, bind_ok hkey]
    cases outcome with
    | ok t => exact bind_ok hentry
    | error fault => exact bind_error hentry

theorem entriesWithin_written {entry : String → σ → Reader σ} {s : σ} {entries : Entries}
    {outcome : Except Fault σ} (hfills : Fills entry s entries outcome) {ws : List Char}
    (hws : Blank ws) (rest : List Char) :
    ∀ {first : Bool} {body : List Char} {bound : Nat},
      WrittenEntries first entries body → entries.length ≤ bound →
      entriesWithin stringTail entry (bound + 1) first s (body ++ (ws ++ '}' :: rest)) =
        outcome.map (·, '}' :: rest) := by
  have hended : Ended (ws ++ '}' :: rest) :=
    ended_blank_append hws (ended_cons (.inr (.inr rfl)) rest)
  induction hfills with
  | nil =>
    intro first body bound h _
    cases h
    rw [List.nil_append, entriesWithin, bind_ok (anotherKey_close hws first rest)]
    rfl
  | cons henter _ ih =>
    intro first body bound h hbound
    rw [List.length_cons] at hbound
    obtain ⟨bound, rfl⟩ : ∃ m, bound = m + 1 := ⟨bound - 1, by omega⟩
    obtain ⟨body', hbody', heq⟩ := entriesWithin_cons henter h hended (bound + 1)
    rw [heq]
    exact ih hbody' (Nat.le_of_succ_le_succ hbound)
  | fail henter =>
    intro first body bound h _
    obtain ⟨body', -, heq⟩ := entriesWithin_cons henter h hended bound
    rw [heq]
    rfl

theorem entries_written {entry : String → σ → Reader σ} {s : σ} {es : Entries}
    {outcome : Except Fault σ} {body ws : List Char} (hfills : Fills entry s es outcome)
    (hbody : WrittenEntries true es body) (hws : Blank ws) (rest : List Char) :
    entries stringTail entry s (body ++ (ws ++ '}' :: rest)) = outcome.map (·, '}' :: rest) := by
  refine entriesWithin_written hfills hws rest hbody ?_
  have := hbody.length_le
  rw [List.length_append]
  omega

theorem decodes_entries {f : Option Char → Reader α} {entry : String → σ → Reader σ} {s : σ}
    {k : σ → Reader α} (hf : ∀ cs, f (some '{') ('{' :: cs) = (entries stringTail entry s >>= k) cs)
    {es : Entries} {filled : Except Fault σ} {outcome : Except Fault α}
    (hfills : Fills entry s es filled)
    (hk : ∀ rest, (filled.bind fun t => k t ('}' :: rest)) = outcome.map (·, rest)) :
    Decodes (next >>= f) (.document es) outcome := by
  refine decodes_next fun text htext => ?_
  cases htext with
  | @document _ body ws hbody hws =>
    refine ⟨'{', _, _, rfl, rfl, rfl, fun rest _ => ?_⟩
    have hentries := entries_written hfills hbody hws rest
    rw [List.append_assoc, List.append_assoc, List.singleton_append, hf, ← hk rest]
    cases filled with
    | ok t => exact bind_ok hentries
    | error fault => exact bind_error hentries

/-! ## Values -/

/-- A value, if it nests no deeper than allowed. -/
def fits (levels : Nat) (v : Json) : Except Fault Json :=
  if v.nesting ≤ levels then .ok v else .error .malformed

theorem mapM_fits (levels : Nat) (items : List Json) :
    items.mapM (fits levels) =
      if ∀ v ∈ items, v.nesting ≤ levels then .ok items else .error .malformed :=
  mapM_ite items

theorem decodes_flat {v : Json} {outcome : Except Fault Json}
    (h : ∀ list document, Decodes (valueWith list document) v outcome) (levels : Nat) :
    Decodes (value levels) v outcome := by
  cases levels with
  | zero => exact h _ _
  | succ levels => exact h _ _

theorem decodes_scalar {levels : Nat} {v : Json} (hv : v.nesting = 0) (hreal : v.RealFree) :
    Decodes (value levels) v (fits levels v) := by
  rw [fits, if_pos (by omega)]
  refine decodes_flat (fun list document => ?_) levels
  cases v with
  | null => exact decodes_null list document
  | boolean b => exact decodes_boolean list document b
  | number n =>
    cases n with
    | integer i =>
      have hread : ∀ rest, Ended rest → number ((Number.integer i).chars ++ rest) =
          (Except.ok (Number.integer i)).map (·, rest) :=
        fun rest hrest => number_intChars i hrest
      exact decodes_number list document hread
    | real x => exact False.elim hreal
  | string s => exact decodes_stringValue list document s
  | list items => cases hv
  | document entries => cases hv

theorem exists_decodes_scalar (levels : Nat) {v : Json} (hv : v.nesting = 0) :
    ∃ outcome, Decodes (value levels) v outcome := by
  cases v with
  | null => exact ⟨_, decodes_flat decodes_null levels⟩
  | boolean b =>
    exact ⟨_, decodes_flat (fun list document => decodes_boolean list document b) levels⟩
  | number n =>
    obtain ⟨outcome, h⟩ := exists_number_chars n
    exact ⟨_, decodes_flat (fun list document => decodes_number list document h) levels⟩
  | string s =>
    exact ⟨_, decodes_flat (fun list document => decodes_stringValue list document s) levels⟩
  | list items => cases hv
  | document entries => cases hv

theorem decodes_bracket {v : Json} (hv : v.nesting ≠ 0) :
    Decodes (value 0) v (.error .malformed) := by
  refine decodes_next fun text htext => ?_
  cases htext with
  | list _ _ => exact ⟨'[', _, _, rfl, rfl, rfl, fun rest _ => rfl⟩
  | document _ _ => exact ⟨'{', _, _, rfl, rfl, rfl, fun rest _ => rfl⟩
  | _ => exact absurd rfl hv

theorem decodes_list {levels : Nat} {items : List Json} {outcome : Json → Except Fault Json}
    (h : ∀ v ∈ items, Decodes (value levels) v (outcome v)) :
    Decodes (value (levels + 1)) (.list items) ((items.mapM outcome).map .list) := by
  have hlist : Decodes (value (levels + 1)) (.list (items.map id)) _ :=
    decodes_items Json.list (fun _ => rfl) id h
  rwa [List.map_id] at hlist

theorem decodes_document {levels : Nat} {entries : Entries} {outcome : Except Fault Entries}
    (h : Fills (fun key es => do colon; return Entries.put es key (← value levels)) [] entries
      outcome) :
    Decodes (value (levels + 1)) (.document entries) (outcome.map .document) := by
  refine decodes_entries (k := fun es => do closeDocument; return .document es) (fun _ => rfl) h
    fun rest => ?_
  cases outcome with
  | ok es => rfl
  | error fault => rfl

theorem fills_put {levels : Nat} {entries : Entries}
    (h : ∀ e ∈ entries, Decodes (value levels) e.2 (fits levels e.2)) :
    -- the entries that have been read before these
    ∀ done : Entries, ((done ++ entries).map Prod.fst).Nodup →
      Fills (fun key es => do colon; return Entries.put es key (← value levels)) done entries
        (if ∀ e ∈ entries, e.2.nesting ≤ levels then .ok (done ++ entries)
          else .error .malformed) := by
  induction entries with
  | nil =>
    intro done _
    rw [if_pos (List.forall_mem_nil _), List.append_nil]
    exact .nil
  | cons e entries ih =>
    intro done hkeys
    obtain ⟨key, v⟩ := e
    rw [List.forall_mem_cons] at h
    have henter := (h.1.map (Entries.put done key)).enters
    rw [fits] at henter
    by_cases hv : v.nesting ≤ levels
    · have hkey : key ∉ done.map Prod.fst := by
        rw [List.map_append, List.map_cons, List.nodup_append] at hkeys
        exact fun hmem => hkeys.2.2 key hmem key List.mem_cons_self rfl
      rw [if_pos hv] at henter
      have hput : Entries.put done key v = done ++ [(key, v)] := Entries.put_of_not_mem v hkey
      rw [Except.map, hput] at henter
      have hrest := ih h.2 (done ++ [(key, v)])
        (by rwa [List.append_assoc, List.singleton_append])
      rw [List.append_assoc, List.singleton_append] at hrest
      simp only [List.forall_mem_cons, hv, true_and]
      exact .cons henter hrest
    · rw [if_neg hv] at henter
      rw [if_neg (fun hall => hv (hall (key, v) List.mem_cons_self))]
      exact .fail henter

theorem exists_fills_put {levels : Nat} (h : ∀ v, ∃ outcome, Decodes (value levels) v outcome)
    (entries done : Entries) :
    ∃ filled, Fills (fun key es => do colon; return Entries.put es key (← value levels)) done
      entries filled := by
  induction entries generalizing done with
  | nil => exact ⟨_, .nil⟩
  | cons e entries ih =>
    obtain ⟨key, v⟩ := e
    obtain ⟨outcome, hv⟩ := h v
    have henter := (hv.map (Entries.put done key)).enters
    cases outcome with
    | error fault => exact ⟨_, .fail henter⟩
    | ok w =>
      obtain ⟨filled, hfilled⟩ := ih (Entries.put done key w)
      exact ⟨filled, .cons henter hfilled⟩

/-- Whatever is read from a text of a value, it is the same for every text, and the reader stops at
the end of the text. The value may come back with another number in it, or with one entry for a
repeated key. -/
theorem exists_decodes_value (levels : Nat) (v : Json) :
    ∃ outcome, Decodes (value levels) v outcome := by
  induction levels generalizing v with
  | zero =>
    by_cases hv : v.nesting = 0
    · exact exists_decodes_scalar 0 hv
    · exact ⟨_, decodes_bracket hv⟩
  | succ levels ih =>
    cases v with
    | list items =>
      choose outcome houtcome using ih
      exact ⟨_, decodes_list fun v _ => houtcome v⟩
    | document entries =>
      obtain ⟨filled, hfilled⟩ := exists_fills_put ih entries []
      exact ⟨_, decodes_document hfilled⟩
    | _ => exact exists_decodes_scalar _ rfl

/-- **The reader of all values.** A plain value is given back when it nests no deeper than allowed;
otherwise its text is malformed. -/
theorem decodes_value {levels : Nat} {v : Json} (hv : v.Plain) :
    Decodes (value levels) v (fits levels v) := by
  induction levels generalizing v with
  | zero =>
    by_cases h : v.nesting = 0
    · exact decodes_scalar h hv.realFree
    · -- without a level left, any bracket is one too many
      rw [fits, if_neg (by omega)]
      exact decodes_bracket h
  | succ levels ih =>
    cases v with
    | list items =>
      have hitems := decodes_list fun v hmem => ih (Json.plain_list_iff.1 hv v hmem)
      rw [mapM_fits] at hitems
      simp only [fits, Json.nesting_list_le_iff]
      split_ifs at hitems ⊢
      · exact hitems
      · exact hitems
    | document entries =>
      obtain ⟨hkeys, hentries⟩ := Json.plain_document_iff.1 hv
      have hdocument := decodes_document (fills_put (fun e hmem => ih (hentries e hmem)) [] hkeys)
      simp only [fits, Json.nesting_document_le_iff]
      split_ifs at hdocument ⊢
      · exact hdocument
      · exact hdocument
    | _ => exact decodes_scalar rfl hv.realFree

end FindSelect.Reader
