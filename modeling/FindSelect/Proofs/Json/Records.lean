import FindSelect.Proofs.Json.Decoding

/-!
# Decoding records

What the readers of a known shape decode: strings, words, lists, records and choices by name.

* `decodes_string`, `decodes_truth`, `decodes_unsigned`, `decodes_signed`, `decodes_optional`: single
  values;
* `decodes_listOf`: a list decodes to the outcomes of its items, up to the first error;
* `decodes_listOf_forall₂`, `decodes_listOf_ok`: a list whose items are all read back;
* `decodes_record`: a record decodes to what its entries fill in, if that is complete;
* `decodes_choice_bare`, `decodes_choice`: the two forms of a choice;
* `Holds`: a text of a value, with blanks around it;
* **`run_of_holds`**: a whole text decodes as its value does, the compact one among others.
-/

namespace FindSelect.Reader

variable {α σ ρ κ ι : Type}

/-! ## Single values -/

theorem decodes_string (s : String) : Decodes string (.string s) (.ok s) := by
  refine decodes_next fun text htext => ?_
  cases htext
  refine ⟨'"', _, _, rfl, rfl, rfl, fun rest _ => ?_⟩
  exact (bind_ok rfl).trans (stringTail_stringChars s rest)

theorem decodes_truth (b : Bool) : Decodes boolean (.boolean b) (.ok b) :=
  decodes_booleanWord id rfl rfl b

theorem decodes_wordOf {ofWide? : WideInt → Option α} {i : WideInt} {n : α} (expected : Expected)
    (h : ofWide? i = some n) : Decodes (wordOf expected ofWide?) (.int i) (.ok n) := by
  refine decodes_next fun text htext => ?_
  cases htext
  obtain ⟨c, cs, hcs, hc⟩ := numberChars_head (.integer i)
  refine ⟨c, cs, _, hcs, isBlank_of_startsNumber hc, if_pos hc, fun rest hrest => ?_⟩
  have hnumber : number ((Number.integer i).chars ++ rest) = .ok (.integer i, rest) :=
    number_intChars i hrest
  rw [hcs, List.cons_append] at hnumber
  rw [bind_ok hnumber]
  dsimp only
  rw [h]
  rfl

theorem decodes_unsigned (n : UInt64) : Decodes unsigned (.ofUInt64 n) (.ok n) :=
  decodes_wordOf .unsigned (WideInt.toUInt64?_ofUInt64 n)

theorem decodes_signed (n : Int64) : Decodes signed (.ofInt64 n) (.ok n) :=
  decodes_wordOf .signed (WideInt.toInt64?_ofInt64 n)

theorem decodes_optional_null (reader : Reader α) : Decodes (optional reader) .null (.ok none) :=
  decodes_nullWord none rfl

theorem decodes_optional {reader : Reader α} {v : Json} {outcome : Except Fault α}
    (h : Decodes reader v outcome) (hv : v.isNull = false) :
    Decodes (optional reader) v (outcome.map some) := by
  refine decodes_next fun text htext => ?_
  obtain ⟨c, cs, rfl, hc, -, hnull⟩ := htext.head
  have hn := hnull hv
  refine ⟨c, cs, do return some (← reader), rfl, hc, ?_, fun rest hrest => ?_⟩
  · split
    next heq => cases heq; exact absurd rfl hn
    next => rfl
  · exact h.map some _ htext [] rest blank_nil hrest

theorem decodes_ofOption {reader : Reader α} {toJson : α → Json}
    (h : ∀ a, Decodes reader (toJson a) (.ok a)) (hnull : ∀ a, (toJson a).isNull = false)
    (part : Option α) : Decodes (optional reader) (.ofOption toJson part) (.ok part) := by
  cases part with
  | none => exact decodes_optional_null reader
  | some a => exact decodes_optional (h a) (hnull a)

/-! ## Lists -/

theorem decodes_listOf {item : Nat → Reader α} {levels : Nat} {xs : List ι} (toJson : ι → Json)
    {outcome : ι → Except Fault α}
    (h : ∀ x ∈ xs, Decodes (item levels) (toJson x) (outcome x)) :
    Decodes (listOf (levels + 1) item) (.list (xs.map toJson)) (xs.mapM outcome) := by
  have hlist : Decodes (listOf (levels + 1) item) (.list (xs.map toJson)) _ :=
    decodes_items id (fun _ => rfl) toJson h
  rwa [Except.map_id] at hlist

theorem decodes_listOf_forall₂ {item : Nat → Reader ι} {levels : Nat} {xs : List ι}
    {vs : List Json} (h : List.Forall₂ (fun x v => Decodes (item levels) v (.ok x)) xs vs) :
    Decodes (listOf (levels + 1) item) (.list vs) (.ok xs) := by
  obtain ⟨hlength, hitems⟩ := List.forall₂_iff_zip.1 h
  have hlist : Decodes (listOf (levels + 1) item) (.list ((xs.zip vs).map Prod.snd))
      ((xs.zip vs).mapM fun p => .ok p.1) :=
    decodes_listOf Prod.snd fun p hp => hitems hp
  have hread : (xs.zip vs).mapM (fun p => (Except.ok p.1 : Except Fault ι)) = .ok xs :=
    List.mapM_pure.trans (congrArg Except.ok (List.map_fst_zip (Nat.le_of_eq hlength)))
  rwa [List.map_snd_zip (Nat.le_of_eq hlength.symm), hread] at hlist

theorem decodes_listOf_ok {item : Nat → Reader ι} {levels : Nat} {xs : List ι} (toJson : ι → Json)
    (h : ∀ x ∈ xs, Decodes (item levels) (toJson x) (.ok x)) :
    Decodes (listOf (levels + 1) item) (.list (xs.map toJson)) (.ok xs) := by
  refine decodes_listOf_forall₂ ?_
  rw [List.forall₂_map_right_iff, List.forall₂_same]
  exact h

/-! ## Records -/

theorem enters_field {reader : Reader α} {v : Json} {outcome : Except Fault α} (name : String)
    (draft : Option α → σ) (h : Decodes reader v outcome) :
    Enters (do return draft (← fieldValue name none reader)) v
      (outcome.map fun a => draft (some a)) := by
  have hvalue : Enters (fieldValue name none reader) v (outcome.map some) := (h.map some).enters
  have hdraft := hvalue.map draft
  cases outcome with
  | ok a => exact hdraft
  | error fault => exact hdraft

/-- A record decodes to what its entries fill in, when that is complete. -/
theorem decodes_record {shape : RecordShape σ ρ} {levels : Nat} {entries : Entries}
    {filled : Except Fault σ} {outcome : Except Fault ρ}
    (h : Fills (shape.field levels) shape.empty entries filled)
    (hfinish : (filled.bind fun draft => (shape.finish draft).mapError .mismatch) = outcome) :
    Decodes (record shape (levels + 1)) (.document entries) outcome := by
  refine decodes_entries (k := shape.close) (fun _ => rfl) h fun rest => ?_
  rw [← hfinish]
  cases filled with
  | error fault => rfl
  | ok draft =>
    simp only [Except.bind, RecordShape.close]
    cases shape.finish draft with
    | ok r => rfl
    | error m => rfl

/-! ## Choices -/

theorem variant_stringChars {pick : String → Except Mismatch κ} {name : String} {k : κ}
    (hpick : pick name = .ok k) {ws : List Char} (hws : Blank ws) (rest : List Char) :
    variant pick (ws ++ (stringChars name ++ rest)) = .ok (k, rest) := by
  rw [stringChars, List.cons_append, variant, bind_ok (next_blank_cons hws rfl _)]
  refine (bind_ok rfl).trans ((bind_ok (stringTail_stringChars name rest)).trans ?_)
  rw [hpick]
  rfl

theorem decodes_choice_bare {pick : String → Except Mismatch κ} {bare : κ → Reader α}
    {payload : Nat → κ → Reader α} {name : String} {k : κ} {a : α} (levels : Nat)
    (hpick : pick name = .ok k) (hbare : bare k = pure a) :
    Decodes (choice pick bare payload levels) (.string name) (.ok a) := by
  refine decodes_next fun text htext => ?_
  cases htext
  refine ⟨'"', _, _, rfl, rfl, rfl, fun rest _ => ?_⟩
  refine (bind_ok (variant_stringChars hpick blank_nil rest)).trans ?_
  rw [hbare]
  rfl

theorem decodes_choice {pick : String → Except Mismatch κ} {bare : κ → Reader α}
    {payload : Nat → κ → Reader α} {name : String} {k : κ} {levels : Nat} {v : Json}
    {outcome : Except Fault α} (hpick : pick name = .ok k)
    (hpayload : Decodes (payload levels k) v outcome) :
    Decodes (choice pick bare payload (levels + 1)) (.document [(name, v)]) outcome := by
  refine decodes_next fun text htext => ?_
  cases htext with
  | @document _ body ws hbody hws =>
    cases hbody with
    | @cons _ _ _ _ sep ws₁ ws₂ ws₃ text body hsep h₁ h₂ h₃ htext hbody =>
      cases hsep
      cases hbody
      refine ⟨'{', _, _, rfl, rfl, rfl, fun rest _ => ?_⟩
      have hended : Ended (ws ++ '}' :: rest) :=
        ended_blank_append hws (ended_cons (.inr (.inr rfl)) rest)
      have hname := variant_stringChars hpick h₁
        (ws₂ ++ ':' :: (ws₃ ++ (text ++ (ws ++ '}' :: rest))))
      have hvalue := hpayload text htext ws₃ _ h₃ hended
      simp only [List.append_assoc, List.cons_append, List.nil_append] at hname ⊢
      refine (bind_ok rfl).trans ((bind_ok hname).trans ((bind_ok (colon_cons h₂ _)).trans ?_))
      cases outcome with
      | ok a => exact (bind_ok hvalue).trans (bind_ok (closeDocument_cons hws rest))
      | error fault => exact bind_error hvalue

/-! ## Whole texts -/

/-- A text is a text of a value with blanks around it. -/
def Holds (text : String) (v : Json) : Prop :=
  ∃ before cs after, Blank before ∧ Written v cs ∧ Blank after ∧
    text.toList = before ++ (cs ++ after)

theorem holds_compact (v : Json) : Holds v.compact v := by
  refine ⟨[], v.chars, [], blank_nil, written_chars v, blank_nil, ?_⟩
  rw [Json.compact, String.toList_ofList, List.nil_append, List.append_nil]

/-- **A whole text decodes as its value does.** -/
theorem run_of_holds {reader : Reader α} {v : Json} {outcome : Except Fault α} {text : String}
    (h : Decodes reader v outcome) (htext : Holds text v) : reader.run text = outcome := by
  obtain ⟨before, cs, after, hbefore, hcs, hafter, heq⟩ := htext
  have hended : Ended after := by
    have := ended_blank_append hafter ended_nil
    rwa [List.append_nil] at this
  have hread := h cs hcs before after hbefore hended
  have hblank : (after.dropWhile isBlank).isEmpty = true := by
    rw [← List.append_nil after, List.dropWhile_append_of_pos hafter]
    rfl
  rw [run, heq, hread]
  cases outcome with
  | error fault => rfl
  | ok a =>
    simp only [Except.map, bind, Except.bind]
    rw [if_pos hblank]
    rfl

theorem run_compact {reader : Reader α} {v : Json} {outcome : Except Fault α}
    (h : Decodes reader v outcome) : reader.run v.compact = outcome :=
  run_of_holds h (holds_compact v)

end FindSelect.Reader

namespace FindSelect

theorem Json.parse_compact {v : Json} (hplain : v.Plain) (hnesting : v.nesting ≤ 127) :
    parse v.compact = .ok v := by
  have hparse : parse v.compact = Reader.fits 127 v :=
    Reader.run_compact (Reader.decodes_value hplain)
  rw [hparse, Reader.fits, if_pos hnesting]

end FindSelect
