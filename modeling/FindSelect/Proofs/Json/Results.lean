import FindSelect.Json.Record
import FindSelect.Proofs.FirstError
import FindSelect.Proofs.Json.Scalars
import FindSelect.Proofs.Json.Shape

/-!
# What readers give

A reader that gives anything gives something of a certain kind, whatever the text was. This is told
step by step, as readers are put together, and for the members of lists and documents by an invariant
of what has been read so far. A repeated key takes the place of the one before, so the documents of a
value that was read have distinct keys.

* `Gives`: all that a reader gives has a property;
* `gives_items`, `gives_entries`, `gives_record`: members, entries and fields one after another;
* `distinctKeys_put`: putting a value under a key keeps keys distinct;
* **`distinctKeys_of_parse`**: a value that was read has distinct keys throughout.
-/

namespace FindSelect.Reader

variable {α β σ ρ κ : Type}

/-- All that a reader gives has a property. -/
def Gives (reader : Reader α) (P : α → Prop) : Prop :=
  ∀ cs a rest, reader cs = .ok (a, rest) → P a

/-! ## Steps -/

section Steps

variable {P : α → Prop} {Q : β → Prop}

theorem gives_any (reader : Reader α) : Gives reader fun _ => True := fun _ _ _ _ => trivial

theorem gives_pure {a : α} (ha : P a) : Gives (pure a) P := by
  rintro cs _ _ ⟨⟩
  exact ha

theorem gives_throw (fault : Fault) : Gives (throw fault : Reader α) P := by
  rintro cs _ _ ⟨⟩

theorem gives_mismatch (m : Mismatch) : Gives (mismatch m) P := gives_throw _

theorem Gives.bind {x : Reader α} {f : α → Reader β} (hx : Gives x P)
    (hf : ∀ a, P a → Gives (f a) Q) : Gives (x >>= f) Q := by
  intro cs b rest h
  cases hread : x cs with
  | error fault =>
    rw [bind_error hread] at h
    cases h
  | ok p =>
    obtain ⟨a, between⟩ := p
    rw [bind_ok hread] at h
    exact hf a (hx cs a between hread) between b rest h

theorem Gives.after {f : α → Reader β} (hf : ∀ a, Gives (f a) Q) (x : Reader α) :
    Gives (x >>= f) Q :=
  (gives_any x).bind fun a _ => hf a

theorem Gives.run {reader : Reader α} (h : Gives reader P) {text : String} {a : α}
    (hrun : reader.run text = .ok a) : P a := by
  unfold Reader.run at hrun
  obtain ⟨⟨b, rest⟩, hread, hrest⟩ := bind_eq_ok_iff.1 hrun
  dsimp only at hrest
  split_ifs at hrest
  cases hrest
  exact h _ _ _ hread

end Steps

/-! ## Members -/

theorem gives_itemsWithin {item : Reader α} {P : α → Prop} (h : Gives item P) (bound : Nat) :
    ∀ first, Gives (itemsWithin item bound first) fun vs => ∀ v ∈ vs, P v := by
  induction bound with
  | zero => exact fun _ => gives_throw _
  | succ bound ih =>
    intro first
    unfold itemsWithin
    refine Gives.after (fun more => ?_) _
    cases more with
    | false => exact gives_pure (List.forall_mem_nil P)
    | true =>
      refine h.bind fun v hv => (ih false).bind fun vs hvs => gives_pure ?_
      rw [List.forall_mem_cons]
      exact ⟨hv, hvs⟩

theorem gives_items {item : Reader α} {P : α → Prop} (h : Gives item P) :
    Gives (items item) fun vs => ∀ v ∈ vs, P v :=
  fun cs => gives_itemsWithin h _ true cs

theorem gives_entriesWithin {key : Reader κ} {entry : κ → σ → Reader σ} {P : σ → Prop}
    (h : ∀ k s, P s → Gives (entry k s) P) (bound : Nat) :
    ∀ first s, P s → Gives (entriesWithin key entry bound first s) P := by
  induction bound with
  | zero => exact fun _ _ _ => gives_throw _
  | succ bound ih =>
    intro first s hs
    unfold entriesWithin
    refine Gives.after (fun more => ?_) _
    cases more with
    | false => exact gives_pure hs
    | true => exact Gives.after (fun k => (h k s hs).bind fun t ht => ih false t ht) key

theorem gives_entries {key : Reader κ} {entry : κ → σ → Reader σ} {P : σ → Prop} {s : σ}
    (h : ∀ k s, P s → Gives (entry k s) P) (hs : P s) : Gives (entries key entry s) P :=
  fun cs => gives_entriesWithin h _ true s hs cs

/-! ## Records -/

theorem gives_optional {reader : Reader α} {P : α → Prop} (h : Gives reader P) :
    Gives (optional reader) fun part => ∀ a ∈ part, P a := by
  unfold optional
  refine Gives.after (fun c => ?_) next
  split
  · exact Gives.after (fun _ => gives_pure nofun) _
  · refine h.bind fun a ha => gives_pure ?_
    rintro _ ⟨⟩
    exact ha

theorem gives_fieldValue {reader : Reader α} {P : α → Prop} (h : Gives reader P) (name : String)
    (slot : Option α) : Gives (fieldValue name slot reader) fun part => ∀ a ∈ part, P a := by
  unfold fieldValue
  split_ifs
  · exact gives_mismatch _
  · refine Gives.after (fun _ => h.bind fun a ha => gives_pure ?_) colon
    rintro _ ⟨⟩
    exact ha

theorem gives_skipField {draft : σ} {P : σ → Prop} (h : P draft) : Gives (skipField draft) P :=
  Gives.after (fun _ => Gives.after (fun _ => gives_pure h) skip) colon

theorem gives_optionalItem {reader : Reader α} {P : α → Prop} (h : Gives reader P) (place : Nat)
    {default : α} (hdefault : P default) : Gives (optionalItem place default reader) P := by
  refine Gives.after (fun more => ?_) _
  cases more with
  | false => exact gives_pure hdefault
  | true => exact h

theorem gives_unexpected (expected : Expected) (P : α → Prop) : Gives (unexpected expected) P := by
  unfold unexpected
  refine Gives.after (fun c => ?_) next
  split
  · exact gives_throw _
  · exact Gives.after (fun _ => gives_mismatch _) _
  · exact Gives.after (fun _ => gives_mismatch _) _
  · exact Gives.after (fun _ => gives_mismatch _) _
  · exact Gives.after (fun _ => Gives.after (fun _ => gives_mismatch _) _) _
  · exact gives_mismatch _
  · exact gives_mismatch _
  · split_ifs
    · refine Gives.after (fun n => ?_) number
      cases n with
      | integer i => exact gives_mismatch _
      | real x => exact gives_mismatch _
    · exact gives_throw _

/-- A record has a property when its form as a list gives it and when every field keeps an invariant
of the draft from which it follows. -/
theorem gives_record {shape : RecordShape σ ρ} {I : σ → Prop} {P : ρ → Prop}
    (hlist : ∀ levels, Gives (shape.ofList levels) P) (hempty : I shape.empty)
    (hfield : ∀ levels key draft, I draft → Gives (shape.field levels key draft) I)
    (hfinish : ∀ draft r, I draft → shape.finish draft = .ok r → P r) (levels : Nat) :
    Gives (record shape levels) P := by
  unfold record
  refine Gives.after (fun c => ?_) next
  split
  · refine Gives.after (fun levels => ?_) _
    exact (hlist levels).bind fun r hr => Gives.after (fun _ => gives_pure hr) closeList
  · refine Gives.after (fun levels => ?_) _
    refine (gives_entries (hfield levels) hempty).bind fun draft hdraft => ?_
    unfold RecordShape.close
    split
    next r heq => exact Gives.after (fun _ => gives_pure (hfinish draft r hdraft heq)) _
    next m _ => exact gives_mismatch m
  · exact gives_unexpected _ P

/-! ## Values -/

theorem gives_valueWith {list document : Reader Json} {P : Json → Prop}
    (hflat : ∀ v : Json, v.nesting = 0 → P v) (hlist : Gives list P)
    (hdocument : Gives document P) : Gives (valueWith list document) P := by
  unfold valueWith
  refine Gives.after (fun c => ?_) next
  split
  · exact gives_throw _
  · exact Gives.after (fun _ => gives_pure (hflat _ rfl)) _
  · exact Gives.after (fun _ => gives_pure (hflat _ rfl)) _
  · exact Gives.after (fun _ => gives_pure (hflat _ rfl)) _
  · exact Gives.after (fun _ => Gives.after (fun _ => gives_pure (hflat _ rfl)) _) _
  · exact hlist
  · exact hdocument
  · split_ifs
    · exact Gives.after (fun _ => gives_pure (hflat _ rfl)) number
    · exact gives_throw _

end FindSelect.Reader

namespace FindSelect

/-! ## Distinct keys -/

theorem Entries.keys_put_of_mem {es : Entries} {key : String} (v : Json)
    (h : key ∈ es.map Prod.fst) : (es.put key v).map Prod.fst = es.map Prod.fst := by
  have hany : es.any (·.1 == key) = true := by
    obtain ⟨e, he, rfl⟩ := List.mem_map.1 h
    exact List.any_eq_true.2 ⟨e, he, beq_self_eq_true e.1⟩
  rw [put, if_pos hany, List.map_map]
  refine List.map_congr_left fun e _ => ?_
  by_cases hkey : e.1 = key
  · simp [hkey]
  · simp [hkey]

theorem Entries.mem_put {es : Entries} {key : String} {v : Json} {e : String × Json}
    (h : e ∈ es.put key v) : e ∈ es ∨ e = (key, v) := by
  unfold put at h
  split_ifs at h
  · obtain ⟨d, hd, rfl⟩ := List.mem_map.1 h
    split_ifs
    · exact .inr rfl
    · exact .inl hd
  · rw [List.mem_append, List.mem_singleton] at h
    exact h

/-- Putting a value under a key keeps keys distinct, as a key that is there keeps its place. -/
theorem distinctKeys_put {es : Entries} {key : String} {v : Json}
    (hes : (Json.document es).DistinctKeys) (hv : v.DistinctKeys) :
    (Json.document (es.put key v)).DistinctKeys := by
  obtain ⟨hkeys, hvalues⟩ := hes
  rw [Json.distinctKeysEntries_iff] at hvalues
  refine ⟨?_, Json.distinctKeysEntries_iff.2 fun e he => ?_⟩
  · by_cases hkey : key ∈ es.map Prod.fst
    · rw [Entries.keys_put_of_mem v hkey]
      exact hkeys
    · rw [Entries.put_of_not_mem v hkey, List.map_append, List.nodup_append]
      refine ⟨hkeys, List.pairwise_singleton _ _, fun a ha b hb hab => ?_⟩
      rw [List.map_singleton, List.mem_singleton] at hb
      rw [hab, hb] at ha
      exact hkey ha
  · rcases Entries.mem_put he with he | rfl
    · exact hvalues e he
    · exact hv

open Reader

theorem gives_value_distinctKeys (levels : Nat) : Gives (value levels) Json.DistinctKeys := by
  have hflat : ∀ v : Json, v.nesting = 0 → v.DistinctKeys := by
    intro v hv
    cases v with
    | list items => cases hv
    | document entries => cases hv
    | _ => exact trivial
  induction levels with
  | zero => exact gives_valueWith hflat (gives_throw _) (gives_throw _)
  | succ levels ih =>
    refine gives_valueWith hflat (Gives.after (fun _ => ?_) advance)
      (Gives.after (fun _ => ?_) advance)
    · refine (gives_items ih).bind fun vs hvs => Gives.after (fun _ => gives_pure ?_) closeList
      exact Json.distinctKeysItems_iff.2 hvs
    · have hput : ∀ key (es : Entries), (Json.document es).DistinctKeys →
          Gives (do colon; return Entries.put es key (← value levels))
            fun es => (Json.document es).DistinctKeys := by
        intro key es hes
        refine Gives.after (fun _ => ih.bind fun v hv => gives_pure ?_) colon
        exact distinctKeys_put hes hv
      have hempty : (Json.document []).DistinctKeys := ⟨List.nodup_nil, trivial⟩
      refine (gives_entries hput hempty).bind fun es hes => ?_
      exact Gives.after (fun _ => gives_pure hes) closeDocument

/-- **A value that was read has distinct keys**, however often its text repeats a key. -/
theorem distinctKeys_of_parse {text : String} {v : Json} (h : Json.parse text = .ok v) :
    v.DistinctKeys :=
  (gives_value_distinctKeys maxNesting).run h

theorem distinctKeys_of_map_parse {text : Option String} {part : Option Json}
    (h : text.map Json.parse = part.map .ok) : ∀ v ∈ part, v.DistinctKeys := by
  rintro v ⟨⟩
  cases text with
  | none => cases h
  | some text => exact distinctKeys_of_parse (Option.some.inj h)

end FindSelect
