import FindSelect.Proofs.FirstError
import FindSelect.Proofs.Call.RoundTrip

/-!
# The forms of a sort argument

A sort argument is a document of keys with directions, a pair, or a list of pairs. The forms of a
pair and of a list of pairs do not overlap: a list of two items that begins with a string can only be
a pair. What has none of the forms is refused at the first place that is wrong.

* `Json.IsDirection`, `Json.IsPair`, `Json.IsSortArgument`: the values that are accepted;
* `SortSpec.Reads`: the argument that a value is;
* `Json.PairFault`, `Json.SortArgumentFault`: why a value is refused;
* `SortSpec.ofJson_eq_ok_iff`, `SortSpec.ofJson_eq_error_iff`: the outcome of reading a value;
* **`SortSpec.ofJson_outcome`**: the same for the sort keys, with the forms that ask for the same.
-/

namespace FindSelect

/-! ## Accepted values -/

/-- An integer of a signed word. -/
def Json.IsDirection (v : Json) : Prop :=
  ∃ i : WideInt, v = .int i ∧ -0x8000000000000000 ≤ i.val ∧ i.val < 0x8000000000000000

/-- A list of a string and a direction. -/
def Json.IsPair (v : Json) : Prop := ∃ key d, v = .list [.string key, d] ∧ d.IsDirection

/-- A document of directions, a pair, or a list of pairs. -/
def Json.IsSortArgument : Json → Prop
  | .document entries => ∀ e ∈ entries, e.2.IsDirection
  | .list items => Json.IsPair (.list items) ∨ ∀ v ∈ items, v.IsPair
  | _ => False

/-- The argument that a value is, in each of the three forms. -/
inductive SortSpec.Reads : Json → SortSpec → Prop
  | document (ps : List (String × Int64)) :
    Reads (.document (ps.map fun p => (p.1, .ofInt64 p.2))) (.list ps)
  | pair (key : String) (d : Int64) : Reads (.list [.string key, .ofInt64 d]) (.single key d)
  | pairs (ps : List (String × Int64)) :
    Reads (.list (ps.map fun p => .list [.string p.1, .ofInt64 p.2])) (.list ps)

/-! ## Refused values -/

/-- Why an item of a list is no pair. -/
inductive Json.PairFault : Json → SortFault → Prop
  | notPair {v : Json} : (∀ key d, v ≠ .list [.string key, d]) → PairFault v (.notPair v)
  | notDirection {key : String} {d : Json} : ¬ d.IsDirection →
    PairFault (.list [.string key, d]) (.notDirection d)

/-- Why a value is no sort argument: at the first place that is wrong, all that stands before it is
well. A list of two items that begins with a string is judged as a pair. -/
inductive Json.SortArgumentFault : Json → SortFault → Prop
  | noForm {v : Json} : (∀ entries, v ≠ .document entries) → (∀ items, v ≠ .list items) →
    SortArgumentFault v (.noForm v)
  | entry {before after : Entries} {key : String} {d : Json} : (∀ e ∈ before, e.2.IsDirection) →
    ¬ d.IsDirection → SortArgumentFault (.document (before ++ (key, d) :: after)) (.notDirection d)
  | pair {key : String} {d : Json} : ¬ d.IsDirection →
    SortArgumentFault (.list [.string key, d]) (.notDirection d)
  | item {before after : List Json} {v : Json} {fault : SortFault} :
    (∀ key d, before ++ v :: after ≠ [.string key, d]) → (∀ w ∈ before, w.IsPair) →
    v.PairFault fault → SortArgumentFault (.list (before ++ v :: after)) fault

/-! ## Directions -/

theorem WideInt.eq_ofInt64_of_toInt64? {i : WideInt} {d : Int64} (h : i.toInt64? = some d) :
    i = ofInt64 d := by
  unfold toInt64? at h
  split at h
  next hlt =>
    cases h
    have hval : (Int64.ofInt i.val).toInt = i.val := Int64.toInt_ofInt_of_le i.lower hlt
    cases i
    simp [ofInt64, hval]
  next => cases h

namespace SortSpec

theorem direction_eq_ok_iff {v : Json} {d : Int64} : direction v = .ok d ↔ v = .ofInt64 d := by
  constructor
  · intro h
    unfold direction at h
    split at h
    next d' hd =>
      cases h
      unfold Json.toInt64? at hd
      split at hd
      next i => rw [WideInt.eq_ofInt64_of_toInt64? hd, Json.ofInt64, Json.int]
      next => cases hd
    next => cases h
  · rintro rfl
    exact direction_ofInt64 d

theorem isDirection_iff {v : Json} : v.IsDirection ↔ ∃ d, direction v = .ok d := by
  simp only [direction_eq_ok_iff]
  constructor
  · rintro ⟨i, rfl, -, hlt⟩
    have hd : i.toInt64? = some (Int64.ofInt i.val) := if_pos hlt
    exact ⟨_, congrArg Json.int (WideInt.eq_ofInt64_of_toInt64? hd)⟩
  · rintro ⟨d, rfl⟩
    exact ⟨.ofInt64 d, rfl, d.le_toInt, d.toInt_lt⟩

theorem direction_eq_error_iff {v : Json} {e : CallError} :
    direction v = .error e ↔ ¬ v.IsDirection ∧ e = .invalidSort (.notDirection v) := by
  rw [isDirection_iff]
  unfold direction
  cases v.toInt64? with
  | some d => simp
  | none => simp [eq_comm]

theorem isOk_direction_iff {v : Json} : (direction v).isOk ↔ v.IsDirection := by
  rw [isDirection_iff]
  cases direction v with
  | error e => simp [Except.isOk, Except.toBool]
  | ok d => simp [Except.isOk, Except.toBool]

/-! ## Pairs -/

theorem pair_list (key : String) (d : Json) :
    pair (.list [.string key, d]) = (key, ·) <$> direction d := by
  rw [pair]
  cases direction d <;> rfl

theorem pair_of_ne {v : Json} (h : ∀ key d, v ≠ .list [.string key, d]) :
    pair v = .error (.invalidSort (.notPair v)) := by
  unfold pair
  split
  next key d => exact absurd rfl (h key d)
  next => rfl

theorem pair_eq_ok_iff {v : Json} {p : String × Int64} :
    pair v = .ok p ↔ v = .list [.string p.1, .ofInt64 p.2] := by
  by_cases hv : ∃ key d, v = .list [.string key, d]
  · obtain ⟨key, d, rfl⟩ := hv
    simp only [pair_list, map_eq_ok_iff, direction_eq_ok_iff]
    constructor
    · rintro ⟨d', rfl, rfl⟩
      rfl
    · intro h
      simp only [Json.list.injEq, List.cons.injEq, Json.string.injEq] at h
      exact ⟨p.2, h.2.1, by rw [h.1]⟩
  · simp only [not_exists] at hv
    rw [pair_of_ne hv]
    constructor
    · intro h
      cases h
    · intro h
      exact absurd h (hv _ _)

theorem isOk_pair_iff {v : Json} : (pair v).isOk ↔ v.IsPair := by
  by_cases hv : ∃ key d, v = .list [.string key, d]
  · obtain ⟨key, d, rfl⟩ := hv
    have hpair : Json.IsPair (.list [.string key, d]) ↔ d.IsDirection := by
      simp [Json.IsPair]
    rw [hpair, ← isOk_direction_iff, pair_list]
    cases direction d <;> rfl
  · simp only [not_exists] at hv
    rw [pair_of_ne hv]
    refine iff_of_false Bool.noConfusion ?_
    rintro ⟨key, d, rfl, -⟩
    exact hv key d rfl

theorem pair_eq_error_iff {v : Json} {e : CallError} :
    pair v = .error e ↔ ∃ fault, v.PairFault fault ∧ e = .invalidSort fault := by
  by_cases hv : ∃ key d, v = .list [.string key, d]
  · obtain ⟨key, d, rfl⟩ := hv
    rw [pair_list, map_eq_error_iff, direction_eq_error_iff]
    constructor
    · rintro ⟨hd, rfl⟩
      exact ⟨_, .notDirection hd, rfl⟩
    · rintro ⟨fault, hfault, rfl⟩
      cases hfault with
      | notPair hne => exact absurd rfl (hne key d)
      | notDirection hd => exact ⟨hd, rfl⟩
  · simp only [not_exists] at hv
    rw [pair_of_ne hv]
    constructor
    · intro h
      cases h
      exact ⟨_, .notPair hv, rfl⟩
    · rintro ⟨fault, hfault, rfl⟩
      cases hfault with
      | notPair => rfl
      | notDirection => exact absurd rfl (hv _ _)

/-! ## Rows -/

theorem pairs_eq_mapM (items : List Json) : pairs items = items.mapM pair := by
  induction items with
  | nil => rfl
  | cons v items ih => rw [List.mapM_cons, pairs, ih]

theorem directions_eq_mapM (entries : Entries) :
    directions entries = entries.mapM fun e => (e.1, ·) <$> direction e.2 := by
  induction entries with
  | nil => rfl
  | cons e entries ih =>
    rw [List.mapM_cons, directions, ih]
    cases direction e.2 <;> rfl

theorem directions_eq_pairs (entries : Entries) :
    directions entries = pairs (entries.map fun e => .list [.string e.1, e.2]) := by
  have hpair : (fun e : String × Json => pair (.list [.string e.1, e.2])) =
      fun e => (e.1, ·) <$> direction e.2 := by
    funext e
    exact pair_list e.1 e.2
  rw [directions_eq_mapM, pairs_eq_mapM, List.mapM_map, ← hpair]
  rfl

theorem pairs_eq_ok_iff {items : List Json} {ps : List (String × Int64)} :
    pairs items = .ok ps ↔ items = ps.map fun p => .list [.string p.1, .ofInt64 p.2] := by
  rw [pairs_eq_mapM, mapM_eq_ok_iff]
  simp only [pair_eq_ok_iff]
  rw [← List.forall₂_map_right_iff (R := Eq), List.forall₂_eq_eq_eq]

theorem directions_eq_ok_iff {entries : Entries} {ps : List (String × Int64)} :
    directions entries = .ok ps ↔ entries = ps.map fun p => (p.1, .ofInt64 p.2) := by
  have hpair : Function.Injective fun e : String × Json => Json.list [.string e.1, e.2] := by
    rintro ⟨key, v⟩ ⟨key', v'⟩ h
    simpa using h
  have hpairs : (ps.map fun p => Json.list [.string p.1, .ofInt64 p.2]) =
      (ps.map fun p => (p.1, Json.ofInt64 p.2)).map fun e => .list [.string e.1, e.2] := by
    simp
  rw [directions_eq_pairs, pairs_eq_ok_iff, hpairs]
  exact hpair.list_map.eq_iff

/-! ## Arguments -/

theorem ofJson_document (entries : Entries) :
    ofJson (.document entries) = .list <$> directions entries := rfl

theorem ofJson_pair (key : String) (d : Json) :
    ofJson (.list [.string key, d]) = .single key <$> direction d := by
  rw [ofJson]
  cases direction d <;> rfl

theorem ofJson_list_of_ne {items : List Json} (h : ∀ key d, items ≠ [.string key, d]) :
    ofJson (.list items) = .list <$> pairs items := by
  unfold ofJson
  split
  next heq => cases heq
  next key d heq =>
    cases heq
    exact absurd rfl (h key d)
  next heq =>
    cases heq
    rfl
  next hne => exact absurd rfl (hne items)

theorem ofJson_of_ne {v : Json} (hdocument : ∀ entries, v ≠ .document entries)
    (hlist : ∀ items, v ≠ .list items) : ofJson v = .error (.invalidSort (.noForm v)) := by
  cases v with
  | document entries => exact absurd rfl (hdocument entries)
  | list items => exact absurd rfl (hlist items)
  | _ => rfl

theorem map_pair_ne (ps : List (String × Int64)) (key : String) (d : Json) :
    (ps.map fun p => Json.list [.string p.1, .ofInt64 p.2]) ≠ [.string key, d] := by
  cases ps with
  | nil => simp
  | cons p ps => simp

theorem ofJson_eq_ok_iff {v : Json} {spec : SortSpec} : ofJson v = .ok spec ↔ Reads v spec := by
  constructor
  · intro h
    cases v with
    | document entries =>
      rw [ofJson_document, map_eq_ok_iff] at h
      obtain ⟨ps, hps, rfl⟩ := h
      rw [directions_eq_ok_iff] at hps
      rw [hps]
      exact .document ps
    | list items =>
      by_cases hitems : ∃ key d, items = [.string key, d]
      · obtain ⟨key, d, rfl⟩ := hitems
        rw [ofJson_pair, map_eq_ok_iff] at h
        obtain ⟨d', hd', rfl⟩ := h
        rw [direction_eq_ok_iff] at hd'
        rw [hd']
        exact .pair key d'
      · simp only [not_exists] at hitems
        rw [ofJson_list_of_ne hitems, map_eq_ok_iff] at h
        obtain ⟨ps, hps, rfl⟩ := h
        rw [pairs_eq_ok_iff] at hps
        rw [hps]
        exact .pairs ps
    | _ => cases h
  · intro h
    cases h with
    | document ps =>
      rw [ofJson_document, directions_eq_ok_iff.2 rfl]
      rfl
    | pair key d =>
      rw [ofJson_pair, direction_ofInt64]
      rfl
    | pairs ps =>
      rw [ofJson_list_of_ne (map_pair_ne ps), pairs_eq_ok_iff.2 rfl]
      rfl

theorem isOk_ofJson_iff {v : Json} : (ofJson v).isOk ↔ v.IsSortArgument := by
  cases v with
  | document entries =>
    rw [ofJson_document, isOk_map_iff, directions_eq_mapM, isOk_mapM_iff]
    simp only [isOk_map_iff, isOk_direction_iff]
    rfl
  | list items =>
    by_cases hitems : ∃ key d, items = [.string key, d]
    · obtain ⟨key, d, rfl⟩ := hitems
      rw [ofJson_pair, isOk_map_iff, isOk_direction_iff]
      simp [Json.IsSortArgument, Json.IsPair]
    · simp only [not_exists] at hitems
      rw [ofJson_list_of_ne hitems, isOk_map_iff, pairs_eq_mapM, isOk_mapM_iff]
      simp only [isOk_pair_iff]
      refine (or_iff_right ?_).symm
      rintro ⟨key, d, heq, -⟩
      exact hitems key d (Json.list.inj heq)
  | _ => exact iff_of_false Bool.noConfusion id

theorem ofJson_eq_error_iff {v : Json} {e : CallError} :
    ofJson v = .error e ↔ ∃ fault, v.SortArgumentFault fault ∧ e = .invalidSort fault := by
  constructor
  · intro h
    cases v with
    | document entries =>
      rw [ofJson_document, map_eq_error_iff, directions_eq_mapM, mapM_eq_error_iff] at h
      obtain ⟨before, ⟨key, d⟩, after, rfl, hbefore, hd⟩ := h
      rw [map_eq_error_iff, direction_eq_error_iff] at hd
      simp only [isOk_map_iff, isOk_direction_iff] at hbefore
      exact ⟨_, .entry hbefore hd.1, hd.2⟩
    | list items =>
      by_cases hitems : ∃ key d, items = [.string key, d]
      · obtain ⟨key, d, rfl⟩ := hitems
        rw [ofJson_pair, map_eq_error_iff, direction_eq_error_iff] at h
        exact ⟨_, .pair h.1, h.2⟩
      · simp only [not_exists] at hitems
        rw [ofJson_list_of_ne hitems, map_eq_error_iff, pairs_eq_mapM, mapM_eq_error_iff] at h
        obtain ⟨before, w, after, rfl, hbefore, hw⟩ := h
        simp only [isOk_pair_iff] at hbefore
        obtain ⟨fault, hfault, he⟩ := pair_eq_error_iff.1 hw
        exact ⟨fault, .item hitems hbefore hfault, he⟩
    | _ =>
      cases h
      refine ⟨_, .noForm ?_ ?_, rfl⟩
      · intro entries heq
        cases heq
      · intro items heq
        cases heq
  · rintro ⟨fault, hfault, rfl⟩
    cases hfault with
    | noForm hdocument hlist => exact ofJson_of_ne hdocument hlist
    | entry hbefore hd =>
      rw [ofJson_document, map_eq_error_iff, directions_eq_mapM, mapM_eq_error_iff]
      refine ⟨_, _, _, rfl, ?_, ?_⟩
      · simpa only [isOk_map_iff, isOk_direction_iff] using hbefore
      · rw [map_eq_error_iff, direction_eq_error_iff]
        exact ⟨hd, rfl⟩
    | pair hd =>
      rw [ofJson_pair, map_eq_error_iff, direction_eq_error_iff]
      exact ⟨hd, rfl⟩
    | item hne hbefore hv =>
      rw [ofJson_list_of_ne hne, map_eq_error_iff, pairs_eq_mapM, mapM_eq_error_iff]
      refine ⟨_, _, _, rfl, ?_, pair_eq_error_iff.2 ⟨_, hv, rfl⟩⟩
      simpa only [isOk_pair_iff] using hbefore

/-! ## Sort keys -/

theorem ofJson_document_eq_pairs (entries : Entries) :
    ofJson (.document entries) = ofJson (.list (entries.map fun e => .list [.string e.1, e.2])) := by
  have hne : ∀ key d, (entries.map fun e => Json.list [.string e.1, e.2]) ≠ [.string key, d] := by
    intro key d
    cases entries with
    | nil => simp
    | cons e entries => simp
  rw [ofJson_document, ofJson_list_of_ne hne, directions_eq_pairs]

theorem sorts_ofJson_pair (key : String) (d : Json) :
    sorts <$> ofJson (.list [.string key, d]) = sorts <$> ofJson (.list [.list [.string key, d]]) := by
  have hne : ∀ key' d', [Json.list [.string key, d]] ≠ [.string key', d'] := by
    intro key' d'
    simp
  rw [ofJson_pair, ofJson_list_of_ne hne, pairs_eq_mapM, List.mapM_cons, pair_list]
  cases direction d <;> rfl

theorem sorts_ofJson_eq_ok_iff {v : Json} {keys : List SortKey} :
    sorts <$> ofJson v = .ok keys ↔
      v = .document (keys.map fun k => (k.key, .ofInt64 k.direction)) ∨
        (∃ k, keys = [k] ∧ v = .list [.string k.key, .ofInt64 k.direction]) ∨
          v = .list (keys.map fun k => .list [.string k.key, .ofInt64 k.direction]) := by
  simp only [map_eq_ok_iff, ofJson_eq_ok_iff]
  constructor
  · rintro ⟨spec, hspec, rfl⟩
    cases hspec with
    | document ps => exact .inl (by simp [sorts])
    | pair key d => exact .inr (.inl ⟨⟨key, d⟩, rfl, rfl⟩)
    | pairs ps => exact .inr (.inr (by simp [sorts]))
  · -- a row of sort keys is the row of pairs that lists them
    have hkeys : (list (keys.map fun k => (k.key, k.direction))).sorts = keys := by
      simp [sorts, Function.comp_def]
    rintro (rfl | ⟨k, rfl, rfl⟩ | rfl)
    · have hreads := Reads.document (keys.map fun k => (k.key, k.direction))
      rw [List.map_map] at hreads
      exact ⟨_, hreads, hkeys⟩
    · exact ⟨_, .pair k.key k.direction, rfl⟩
    · have hreads := Reads.pairs (keys.map fun k => (k.key, k.direction))
      rw [List.map_map] at hreads
      exact ⟨_, hreads, hkeys⟩

/-- **What becomes of a sort argument.** A value is accepted exactly when it is a document of
directions, a pair, or a list of pairs. It then gives one sort key for each entry or pair, in order,
so that a document and the list of its entries give the same, as do a pair and the list of that pair
alone. Otherwise it is refused for the first entry or item that is wrong. -/
theorem ofJson_outcome (v : Json) :
    ((ofJson v).isOk ↔ v.IsSortArgument) ∧
    (∀ spec, ofJson v = .ok spec ↔ Reads v spec) ∧
    (∀ keys : List SortKey, sorts <$> ofJson v = .ok keys ↔
      v = .document (keys.map fun k => (k.key, .ofInt64 k.direction)) ∨
        (∃ k, keys = [k] ∧ v = .list [.string k.key, .ofInt64 k.direction]) ∨
          v = .list (keys.map fun k => .list [.string k.key, .ofInt64 k.direction])) ∧
    (∀ entries : Entries, ofJson (.document entries) =
      ofJson (.list (entries.map fun e => .list [.string e.1, e.2]))) ∧
    (∀ (key : String) (d : Json), sorts <$> ofJson (.list [.string key, d]) =
      sorts <$> ofJson (.list [.list [.string key, d]])) ∧
    (∀ e, ofJson v = .error e ↔ ∃ fault, v.SortArgumentFault fault ∧ e = .invalidSort fault) :=
  ⟨isOk_ofJson_iff, fun _ => ofJson_eq_ok_iff, fun _ => sorts_ofJson_eq_ok_iff,
    ofJson_document_eq_pairs, sorts_ofJson_pair, fun _ => ofJson_eq_error_iff⟩

end SortSpec

end FindSelect
