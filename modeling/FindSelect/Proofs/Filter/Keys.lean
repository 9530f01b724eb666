import FindSelect.Proofs.Filter.Alike

/-!
# Which keys of a filter are looked up

The keys of the documents of a filter are comparison tokens or names. A name is looked up among the
columns when its value is compared with it: when the value is no document, or a document with a
token among its own keys. A name over any other document is passed over, whether it is a column or
not, as only the names further inside are compared.

* `filterDocuments`, `filterKeys`: the documents of a filter at the top, and its names;
* `Json.compares`: whether a value is compared with the column of its key;
* `asks_entryLeaves`: the names that are looked up;
* `isOk_decodeWhere_iff`: the filters that are accepted;
* **`keys_of_decodeWhere`**: all names of an accepted filter are columns exactly when those that are
  passed over are;
* `decodeWhere_unread_key`: they need not be.
-/

namespace FindSelect

/-! ## Names -/

/-- Whether a document has a comparison token among its keys. -/
def Entries.hasToken (entries : Entries) : Bool :=
  entries.any fun e => (Operator.ofToken? e.1).isSome

/-- Whether a value is compared with the column of its key. -/
def Json.compares : Json → Bool
  | .document entries => Entries.hasToken entries
  | _ => true

mutual

/-- The names inside the value of a name, as far as `p` holds of their values. -/
def keysUnder (p : Json → Bool) : Json → List String
  | .document entries => entryKeys p entries
  | _ => []

/-- The names of a document and of the documents under them, as far as `p` holds of their values.
What stands under a token is an operand, in which there are no names. -/
def entryKeys (p : Json → Bool) : List (String × Json) → List String
  | [] => []
  | (key, v) :: entries =>
    (match Operator.ofToken? key with
      | some _ => []
      | none => (if p v then [key] else []) ++ keysUnder p v) ++ entryKeys p entries

end

def Json.entries? : Json → Option Entries
  | .document entries => some entries
  | _ => none

/-- The documents of a filter at the top: the filter itself, or the documents of the list. -/
def filterDocuments : Json → List Entries
  | .list items => items.filterMap Json.entries?
  | v => v.entries?.toList

/-- The names of a filter, as far as `p` holds of their values. -/
def filterKeys (p : Json → Bool) (filter : Json) : List String :=
  (filterDocuments filter).flatMap (entryKeys p)

/-- A filter is made of documents: it is one, or a list of nothing else. -/
def IsConjunction : Json → Prop
  | .document _ => True
  | .list items => ∀ v ∈ items, ∃ entries, v = .document entries
  | _ => False

section Names

variable {p : Json → Bool} {key : String}

mutual

theorem mem_keysUnder_or : ∀ v : Json, key ∈ keysUnder (fun _ => true) v ↔
    key ∈ keysUnder p v ∨ key ∈ keysUnder (fun w => !p w) v
  | .document entries => mem_entryKeys_or entries
  | .null | .boolean _ | .number _ | .string _ | .list _ => by simp [keysUnder]

theorem mem_entryKeys_or : ∀ entries : List (String × Json),
    key ∈ entryKeys (fun _ => true) entries ↔
      key ∈ entryKeys p entries ∨ key ∈ entryKeys (fun w => !p w) entries
  | [] => by simp [entryKeys]
  | (k, v) :: entries => by
    have hv := mem_keysUnder_or v
    have hes := mem_entryKeys_or entries
    simp only [entryKeys, List.mem_append, hes]
    cases Operator.ofToken? k with
    | some op => simp
    | none =>
      have hself : key ∈ [k] ↔
          key ∈ (if p v then [k] else []) ∨ key ∈ (if !p v then [k] else []) := by
        cases p v <;> simp
      have hown : key ∈ [k] ∨ key ∈ keysUnder (fun _ => true) v ↔
          (key ∈ (if p v then [k] else []) ∨ key ∈ keysUnder p v) ∨
            (key ∈ (if !p v then [k] else []) ∨ key ∈ keysUnder (fun w => !p w) v) := by
        rw [hself, hv, or_or_or_comm]
      simp only [List.mem_append, if_true]
      rw [hown, or_or_or_comm]

end

theorem mem_filterKeys_or {filter : Json} : key ∈ filterKeys (fun _ => true) filter ↔
    key ∈ filterKeys p filter ∨ key ∈ filterKeys (fun w => !p w) filter := by
  simp only [filterKeys, List.mem_flatMap, mem_entryKeys_or (p := p), and_or_left, exists_or]

end Names

/-! ## Names that are looked up -/

/-- Among the leaves is a comparison in a context. -/
def Asks (ls : List Leaf) (context : Context) : Prop := ∃ op v, .comparison context op v ∈ ls

theorem asks_append {ls ms : List Leaf} {context : Context} :
    Asks (ls ++ ms) context ↔ Asks ls context ∨ Asks ms context := by
  simp only [Asks, List.mem_append, exists_or]

theorem asks_flatMap {α : Type} {f : α → List Leaf} {xs : List α} {context : Context} :
    Asks (xs.flatMap f) context ↔ ∃ x ∈ xs, Asks (f x) context := by
  simp only [Asks, List.mem_flatMap]
  constructor
  · rintro ⟨op, v, x, hx, hmem⟩
    exact ⟨x, hx, op, v, hmem⟩
  · rintro ⟨x, hx, op, v, hmem⟩
    exact ⟨op, v, x, hx, hmem⟩

theorem asks_singleton {context context' : Context} {op : Operator} {v : Json} :
    Asks [.comparison context' op v] context ↔ context = context' := by
  simp [Asks]

mutual

theorem asks_leavesUnder (context : Context) (key : String) : ∀ v : Json,
    Asks (leavesUnder key v) context ↔
      (context = .column key ∧ v.compares = true) ∨
        ∃ name ∈ keysUnder Json.compares v, context = .column name
  | .document entries => asks_entryLeaves context (.column key) entries
  | .null | .boolean _ | .number _ | .string _ | .list _ => by
    simp [leavesUnder, asks_singleton, Json.compares, keysUnder]

/-- A document asks for its own context when it has a token, and for the names inside it whose
values are compared. -/
theorem asks_entryLeaves (context outer : Context) : ∀ entries : List (String × Json),
    Asks (entryLeaves outer entries) context ↔
      (context = outer ∧ Entries.hasToken entries = true) ∨
        ∃ name ∈ entryKeys Json.compares entries, context = .column name
  | [] => by simp [entryLeaves, Asks, Entries.hasToken, entryKeys]
  | (key, v) :: entries => by
    have hes := asks_entryLeaves context outer entries
    have hv := asks_leavesUnder context key v
    rw [entryLeaves, asks_append, hes, entryKeys]
    cases htoken : Operator.ofToken? key with
    | some op =>
      have hhas : Entries.hasToken ((key, v) :: entries) = true := by
        simp [Entries.hasToken, htoken]
      simp only [asks_singleton, hhas, List.nil_append, and_true]
      rw [← or_assoc, or_iff_left_of_imp And.left]
    | none =>
      have hhas : Entries.hasToken ((key, v) :: entries) = Entries.hasToken entries := by
        simp [Entries.hasToken, htoken]
      have hself : (∃ name ∈ (if v.compares then [key] else []), context = .column name) ↔
          context = .column key ∧ v.compares = true := by
        cases v.compares <;> simp
      simp only [hhas, List.mem_append, or_and_right, exists_or]
      rw [hv, hself, or_left_comm]

end

/-! ## Accepted filters -/

variable {columns : List Column}

theorem leaves_eq_flatMap {filter : Json} (h : IsConjunction filter) (context : Context) :
    leaves context filter = (filterDocuments filter).flatMap (entryLeaves context) := by
  cases filter with
  | document entries => simp [leaves, filterDocuments, Json.entries?]
  | list items =>
    have hitems : ∀ v ∈ items, ∃ entries, v = .document entries := h
    simp only [leaves, filterDocuments]
    clear h
    induction items with
    | nil => rfl
    | cons v items ih =>
      rw [List.forall_mem_cons] at hitems
      obtain ⟨⟨entries, rfl⟩, hitems⟩ := hitems
      have hentries : (Json.document entries).entries? = some entries := rfl
      rw [List.flatMap_cons, List.filterMap_cons_some hentries, List.flatMap_cons, ih hitems,
        itemLeaves]
  | _ => exact False.elim h

theorem exists_faulty_mem_leaves {filter : Json} (h : ¬ IsConjunction filter) (context : Context) :
    ∃ fault, .faulty fault ∈ leaves context filter := by
  cases filter with
  | document entries => exact absurd trivial h
  | list items =>
    simp only [IsConjunction, not_forall] at h
    obtain ⟨v, hv, hdocument⟩ := h
    refine ⟨.itemNotDocument v, List.mem_flatMap.2 ⟨v, hv, ?_⟩⟩
    cases v with
    | document entries => exact absurd ⟨entries, rfl⟩ hdocument
    | _ => exact List.mem_singleton_self _
  | _ => exact ⟨_, List.mem_singleton_self _⟩

/-- The column of a context is there. -/
def Context.Present (columns : List Column) : Context → Prop
  | .conjunction => False
  | .column name => ⟨name⟩ ∈ columns

theorem isOk_judge_comparison {context : Context} {op : Operator} {v : Json} :
    ((Leaf.comparison context op v).judge columns).isOk ↔ context.Present columns := by
  cases context with
  | conjunction => exact iff_of_false Bool.noConfusion id
  | column name =>
    rw [Leaf.judge, Context.Present]
    split_ifs with h
    · exact iff_of_true rfl h
    · exact iff_of_false Bool.noConfusion h

theorem isOk_decodeWhere_iff_asks {filter : Json} :
    (decodeWhere columns filter).isOk ↔ IsConjunction filter ∧
      ∀ context, Asks (leaves .conjunction filter) context → context.Present columns := by
  rw [decodeWhere, result_flatten, isOk_mapM_iff]
  constructor
  · intro h
    have hconjunction : IsConjunction filter := by
      by_contra hnot
      obtain ⟨fault, hmem⟩ := exists_faulty_mem_leaves hnot .conjunction
      exact Bool.noConfusion (h _ hmem)
    refine ⟨hconjunction, fun context hasks => ?_⟩
    obtain ⟨op, v, hmem⟩ := hasks
    exact isOk_judge_comparison.1 (h _ hmem)
  · rintro ⟨hconjunction, h⟩ l hl
    cases l with
    | comparison context op v => exact isOk_judge_comparison.2 (h context ⟨op, v, hl⟩)
    | faulty fault =>
      rw [leaves_eq_flatMap hconjunction] at hl
      obtain ⟨entries, -, hentries⟩ := List.mem_flatMap.1 hl
      exact absurd rfl (ne_faulty_of_mem_entryLeaves _ _ _ hentries fault)

/-- A filter is accepted when it is made of documents, none of them with a token at the top, and all
names that are looked up are columns. -/
theorem isOk_decodeWhere_iff {filter : Json} :
    (decodeWhere columns filter).isOk ↔ IsConjunction filter ∧
      (∀ entries ∈ filterDocuments filter, Entries.hasToken entries = false) ∧
      ∀ name ∈ filterKeys Json.compares filter, ⟨name⟩ ∈ columns := by
  rw [isOk_decodeWhere_iff_asks]
  refine and_congr_right fun hconjunction => ?_
  have hasks : ∀ context, Asks (leaves .conjunction filter) context ↔
      (context = .conjunction ∧ ∃ entries ∈ filterDocuments filter,
          Entries.hasToken entries = true) ∨
        ∃ name ∈ filterKeys Json.compares filter, context = .column name := by
    intro context
    rw [leaves_eq_flatMap hconjunction, asks_flatMap]
    simp only [asks_entryLeaves, filterKeys, List.mem_flatMap]
    constructor
    · rintro ⟨entries, hentries, ⟨rfl, htoken⟩ | ⟨name, hname, rfl⟩⟩
      · exact .inl ⟨rfl, entries, hentries, htoken⟩
      · exact .inr ⟨name, ⟨entries, hentries, hname⟩, rfl⟩
    · rintro (⟨rfl, entries, hentries, htoken⟩ | ⟨name, ⟨entries, hentries, hname⟩, rfl⟩)
      · exact ⟨entries, hentries, .inl ⟨rfl, htoken⟩⟩
      · exact ⟨entries, hentries, .inr ⟨name, hname, rfl⟩⟩
  simp only [hasks]
  constructor
  · intro h
    refine ⟨fun entries hentries => ?_, fun name hname => ?_⟩
    · rw [← Bool.not_eq_true]
      exact fun htoken => h .conjunction (.inl ⟨rfl, entries, hentries, htoken⟩)
    · exact h (.column name) (.inr ⟨name, hname, rfl⟩)
  · rintro ⟨htoken, hnames⟩ context (⟨-, entries, hentries, hhas⟩ | ⟨name, hname, rfl⟩)
    · rw [htoken entries hentries] at hhas
      cases hhas
    · exact hnames name hname

theorem kind_of_decodeWhere_eq_error {filter : Json} {e : CallError}
    (hconjunction : IsConjunction filter) (h : decodeWhere columns filter = .error e) :
    e.kind = .unknownColumn := by
  rw [decodeWhere, result_flatten] at h
  obtain ⟨l, hl, he⟩ := exists_mem_of_mapM_eq_error h
  rw [leaves_eq_flatMap hconjunction] at hl
  obtain ⟨entries, -, hentries⟩ := List.mem_flatMap.1 hl
  exact kind_of_judge_eq_error (ne_faulty_of_mem_entryLeaves _ _ _ hentries) he

/-- **Which names of a filter must be columns.** A filter is accepted exactly when it is made of
documents without a token at the top and every name whose value is compared is a column. So all names
of an accepted filter are columns exactly when those over documents without a token of their own
are, which are not looked up. A filter of documents that is not accepted fails at a column that is
not there. -/
theorem keys_of_decodeWhere (columns : List Column) (filter : Json) :
    ((decodeWhere columns filter).isOk ↔ IsConjunction filter ∧
      (∀ entries ∈ filterDocuments filter, Entries.hasToken entries = false) ∧
      ∀ name ∈ filterKeys Json.compares filter, ⟨name⟩ ∈ columns) ∧
    (((decodeWhere columns filter).isOk →
        ∀ name ∈ filterKeys (fun _ => true) filter, ⟨name⟩ ∈ columns) ↔
      ((decodeWhere columns filter).isOk →
        ∀ name ∈ filterKeys (fun v => !v.compares) filter, ⟨name⟩ ∈ columns)) ∧
    (IsConjunction filter → ∀ e, decodeWhere columns filter = .error e →
      e.kind = .unknownColumn) := by
  refine ⟨isOk_decodeWhere_iff, forall_congr' fun hok => ?_,
    fun hconjunction e h => kind_of_decodeWhere_eq_error hconjunction h⟩
  obtain ⟨-, -, hcompared⟩ := isOk_decodeWhere_iff.1 hok
  constructor
  · intro h name hname
    exact h name (mem_filterKeys_or.2 (.inr hname))
  · intro h name hname
    rcases mem_filterKeys_or.1 hname with hname | hname
    · exact hcompared name hname
    · exact h name hname

/-- A filter without names that are passed over: both its names are columns. -/
theorem keys_of_decodeWhere_compared :
    let columns : List Column := [⟨"age"⟩, ⟨"email"⟩]
    let filter : Json := .document
      [("age", .document [("$gte", .boolean true), ("email", .null)])]
    (decodeWhere columns filter).isOk ∧ filterKeys (fun v => !v.compares) filter = [] ∧
      ∀ name ∈ filterKeys (fun _ => true) filter, ⟨name⟩ ∈ columns := by
  intro columns filter
  have hok : (decodeWhere columns filter).isOk := rfl
  have hread : filterKeys (fun v => !v.compares) filter = [] := rfl
  refine ⟨hok, hread, (keys_of_decodeWhere columns filter).2.1.2 (fun _ name hname => ?_) hok⟩
  rw [hread] at hname
  cases hname

/-- A name that is no column and stands over an empty document, and another one that stands over the
name of a column: both are passed over. -/
theorem decodeWhere_unread_key :
    let columns : List Column := [⟨"age"⟩]
    let filter : Json := .document
      [("bogus", .document []), ("unknown", .document [("age", .boolean true)])]
    decodeWhere columns filter = .ok [⟨⟨"age"⟩, .eq, .boolean true⟩] ∧
      filterKeys (fun _ => true) filter = ["bogus", "unknown", "age"] ∧
      (⟨"bogus"⟩ : Column) ∉ columns ∧ (⟨"unknown"⟩ : Column) ∉ columns := by
  exact ⟨rfl, rfl, by decide, by decide⟩

end FindSelect
