import FindSelect.Schema.Resolve
import FindSelect.Proofs.Text.EditDistance
import Mathlib.Data.List.Induction

/-!
# Looking a column up

A column is found by its exact name, and the first of that name counts. A name that no column has
is reported, with the nearest column as a suggestion: of all columns one at the least edit distance,
of several such the first, and none that is more than three edits away.

* `Nearest`: the first of the nearest columns, if one is within reach;
* `nearest_foldl`: one walk along the columns finds it;
* `Nearest.unique`: there is only one;
* `suggestion_eq_iff`: the name that is suggested;
* **`resolveColumn_outcome`**: the column of a name, or the error with its suggestion.
-/

namespace FindSelect

open Text

/-! ## The nearest column -/

/-- The first of the columns that are nearest to a name, or none when all are out of reach. -/
inductive Nearest (name : String) (columns : List Column) : Option Column → Prop
  | outOfReach : (∀ c ∈ columns, 3 < editDistance name c.name) → Nearest name columns none
  | found {before after : List Column} {c : Column} : columns = before ++ c :: after →
    editDistance name c.name ≤ 3 →
    (∀ d ∈ before, editDistance name c.name < editDistance name d.name) →
    (∀ d ∈ after, editDistance name c.name ≤ editDistance name d.name) →
    Nearest name columns (some c)

section Nearest

variable {name : String} {columns : List Column} {nearest : Option Column}

/-- The nearest column with its distance, as it is kept on the way along the columns. -/
def withDistance (name : String) (nearest : Option Column) : Option (String × Nat) :=
  nearest.map fun c => (c.name, editDistance name c.name)

/-- One more column: it becomes the nearest one only if it is nearer than all before it. -/
theorem Nearest.step (h : Nearest name columns nearest) (c : Column) :
    ∃ nearest', Nearest name (columns ++ [c]) nearest' ∧
      betterSuggestion name (withDistance name nearest) c = withDistance name nearest' := by
  cases h with
  | outOfReach hfar =>
    by_cases hc : editDistance name c.name ≤ 3
    · have hbefore : ∀ d ∈ columns, editDistance name c.name < editDistance name d.name := by
        intro d hd
        have := hfar d hd
        omega
      have hlt : editDistance name c.name < suggestionReach + 1 := Nat.lt_succ_of_le hc
      exact ⟨some c, .found rfl hc hbefore (List.forall_mem_nil _), if_pos hlt⟩
    · have hge : ¬ editDistance name c.name < suggestionReach + 1 := by
        unfold suggestionReach
        omega
      refine ⟨none, .outOfReach ?_, if_neg hge⟩
      rw [List.forall_mem_append, List.forall_mem_singleton]
      exact ⟨hfar, by omega⟩
  | @found before after b hcolumns hreach hbefore hafter =>
    by_cases hc : editDistance name c.name < editDistance name b.name
    · refine ⟨some c, .found rfl (by omega) ?_ (List.forall_mem_nil _), if_pos hc⟩
      rw [hcolumns, List.forall_mem_append, List.forall_mem_cons]
      refine ⟨fun d hd => ?_, hc, fun d hd => ?_⟩
      · have := hbefore d hd
        omega
      · have := hafter d hd
        omega
    · refine ⟨some b, .found (by rw [hcolumns, List.append_assoc, List.cons_append]) hreach hbefore ?_,
        if_neg hc⟩
      rw [List.forall_mem_append, List.forall_mem_singleton]
      exact ⟨hafter, by omega⟩

theorem nearest_foldl (name : String) (columns : List Column) :
    ∃ nearest, Nearest name columns nearest ∧
      columns.foldl (betterSuggestion name) none = withDistance name nearest := by
  induction columns using List.reverseRecOn with
  | nil => exact ⟨none, .outOfReach (List.forall_mem_nil _), rfl⟩
  | append_singleton columns c ih =>
    obtain ⟨nearest, hnearest, hfold⟩ := ih
    obtain ⟨nearest', hnearest', hstep⟩ := hnearest.step c
    refine ⟨nearest', hnearest', ?_⟩
    rw [List.foldl_append, hfold]
    exact hstep

theorem Nearest.le {c : Column} (h : Nearest name columns (some c)) :
    ∀ d ∈ columns, editDistance name c.name ≤ editDistance name d.name := by
  cases h with
  | found hcolumns _ hbefore hafter =>
    rw [hcolumns, List.forall_mem_append, List.forall_mem_cons]
    exact ⟨fun d hd => Nat.le_of_lt (hbefore d hd), Nat.le_refl _, hafter⟩

theorem Nearest.mem {c : Column} (h : Nearest name columns (some c)) : c ∈ columns := by
  cases h with
  | found hcolumns => simp [hcolumns]

theorem Nearest.isSome_iff (h : Nearest name columns nearest) :
    nearest.isSome ↔ ∃ c ∈ columns, editDistance name c.name ≤ 3 := by
  cases h with
  | outOfReach hfar =>
    refine iff_of_false Bool.noConfusion ?_
    rintro ⟨c, hc, hreach⟩
    have := hfar c hc
    omega
  | @found before after c hcolumns hreach =>
    exact iff_of_true rfl ⟨c, by simp [hcolumns], hreach⟩

theorem Nearest.find?_eq {c : Column} (h : Nearest name columns (some c)) :
    columns.find? (fun d => ∀ e ∈ columns, editDistance name d.name ≤ editDistance name e.name) =
      some c := by
  have hle := h.le
  have hmem := h.mem
  cases h with
  | @found before after _ hcolumns _ hbefore =>
    rw [List.find?_eq_some_iff_append]
    refine ⟨decide_eq_true hle, before, after, hcolumns, fun d hd => ?_⟩
    have hfarther := hbefore d hd
    have hnot : ¬ ∀ e ∈ columns, editDistance name d.name ≤ editDistance name e.name :=
      fun hall => absurd (hall c hmem) (Nat.not_le_of_lt hfarther)
    rw [decide_eq_false hnot, Bool.not_false]

theorem Nearest.unique {nearest' : Option Column} (h : Nearest name columns nearest)
    (h' : Nearest name columns nearest') : nearest = nearest' := by
  have hsome : nearest.isSome ↔ nearest'.isSome := h.isSome_iff.trans h'.isSome_iff.symm
  cases nearest with
  | none =>
    cases nearest' with
    | none => rfl
    | some c' => exact Bool.noConfusion (hsome.2 rfl)
  | some c =>
    cases nearest' with
    | none => exact Bool.noConfusion (hsome.1 rfl)
    | some c' => rw [← h.find?_eq, h'.find?_eq]

end Nearest

/-! ## Suggestions -/

variable {columns : List Column} {name : String}

theorem suggestion_eq_iff {hint : Option String} : suggestion name columns = hint ↔
    ∃ nearest, Nearest name columns nearest ∧ nearest.map Column.name = hint := by
  obtain ⟨nearest, hnearest, hfold⟩ := nearest_foldl name columns
  have hsuggestion : suggestion name columns = nearest.map Column.name := by
    rw [suggestion, hfold, withDistance, Option.map_map]
    rfl
  rw [hsuggestion]
  constructor
  · rintro rfl
    exact ⟨nearest, hnearest, rfl⟩
  · rintro ⟨nearest', hnearest', rfl⟩
    rw [hnearest.unique hnearest']

/-! ## Columns -/

theorem resolveColumn_eq_error_iff {e : CallError} : resolveColumn columns name = .error e ↔
    (∀ c ∈ columns, c.name ≠ name) ∧ e = .unknownColumn name (suggestion name columns) := by
  unfold resolveColumn
  split
  next c hc =>
    have hname : c.name = name := by simpa using List.find?_some hc
    have hmem : c ∈ columns := List.mem_of_find?_eq_some hc
    refine iff_of_false (by simp) fun h => h.1 c hmem hname
  next hnone =>
    have habsent : ∀ c ∈ columns, c.name ≠ name := by simpa using hnone
    constructor
    · intro h
      cases h
      exact ⟨habsent, rfl⟩
    · rintro ⟨-, rfl⟩
      rfl

theorem columnIndex?_of_first {before after : List Column} {c : Column} (hc : c.name = name)
    (hbefore : ∀ d ∈ before, d.name ≠ name) :
    columnIndex? (before ++ c :: after) name = some before.length := by
  have hnone : before.findIdx? (·.name == name) = none := by
    simpa [List.findIdx?_eq_none_iff] using hbefore
  rw [columnIndex?, List.findIdx?_append, hnone, List.findIdx?_cons, hc, beq_self_eq_true]
  simp

theorem resolveColumn_eq_ok_iff {c : Column} : resolveColumn columns name = .ok c ↔
    ∃ before after, columns = before ++ c :: after ∧ c.name = name ∧
      ∀ d ∈ before, d.name ≠ name := by
  have hfind : resolveColumn columns name = .ok c ↔ columns.find? (·.name == name) = some c := by
    unfold resolveColumn
    split
    next d hd => simp [hd]
    next hnone => simp [hnone]
  rw [hfind, List.find?_eq_some_iff_append]
  constructor
  · rintro ⟨hc, before, after, hcolumns, hbefore⟩
    exact ⟨before, after, hcolumns, by simpa using hc, by simpa using hbefore⟩
  · rintro ⟨before, after, hcolumns, hc, hbefore⟩
    exact ⟨by simpa using hc, before, after, hcolumns, by simpa using hbefore⟩

theorem resolveColumn_eq_error_iff_nearest {e : CallError} :
    resolveColumn columns name = .error e ↔ (∀ c ∈ columns, c.name ≠ name) ∧
      ∃ nearest, Nearest name columns nearest ∧
        e = .unknownColumn name (nearest.map Column.name) := by
  rw [resolveColumn_eq_error_iff]
  refine and_congr_right fun _ => ?_
  obtain ⟨nearest, hnearest, hhint⟩ := suggestion_eq_iff.1 (rfl : suggestion name columns = _)
  rw [← hhint]
  constructor
  · rintro rfl
    exact ⟨nearest, hnearest, rfl⟩
  · rintro ⟨nearest', hnearest', rfl⟩
    rw [hnearest.unique hnearest']

theorem hint_of_resolveColumn_eq_error {hint : Option String}
    (h : resolveColumn columns name = .error (.unknownColumn name hint)) :
    (hint.isSome ↔ ∃ c ∈ columns, editDistance name c.name ≤ 3) ∧
      ∀ s ∈ hint, s ≠ name ∧ 0 < editDistance name s ∧ editDistance name s ≤ 3 := by
  obtain ⟨habsent, nearest, hnearest, heq⟩ := resolveColumn_eq_error_iff_nearest.1 h
  cases heq
  rw [Option.isSome_map]
  refine ⟨hnearest.isSome_iff, fun s hs => ?_⟩
  obtain ⟨c, rfl, rfl⟩ := Option.mem_map.1 hs
  have hne : c.name ≠ name := habsent c hnearest.mem
  have hpos : editDistance name c.name ≠ 0 := fun hzero =>
    hne (editDistance_eq_zero_iff.1 hzero).symm
  cases hnearest with
  | found _ hreach => exact ⟨hne, Nat.pos_of_ne_zero hpos, hreach⟩

/-- **Looking a column up.** The first column of exactly that name is found, in its place. If there
is none, the error carries the name and suggests the first of the nearest columns, which is there
exactly when one is within three edits and is never the name itself. The distance is the least
number of characters to insert, delete or replace. -/
theorem resolveColumn_outcome (columns : List Column) (name : String) :
    (∀ c, resolveColumn columns name = .ok c ↔
      ∃ before after, columns = before ++ c :: after ∧ c.name = name ∧
        (∀ d ∈ before, d.name ≠ name) ∧ columnIndex? columns name = some before.length) ∧
    (∀ e, resolveColumn columns name = .error e ↔ (∀ c ∈ columns, c.name ≠ name) ∧
      ∃ nearest, Nearest name columns nearest ∧
        e = .unknownColumn name (nearest.map Column.name)) ∧
    (∀ hint, resolveColumn columns name = .error (.unknownColumn name hint) →
      (hint.isSome ↔ ∃ c ∈ columns, editDistance name c.name ≤ 3) ∧
        ∀ s ∈ hint, s ≠ name ∧ 0 < editDistance name s ∧ editDistance name s ≤ 3) ∧
    ∀ c : Column, IsLeast {n | Edits n name.toList c.name.toList} (editDistance name c.name) := by
  refine ⟨fun c => ?_, fun _ => resolveColumn_eq_error_iff_nearest,
    fun _ => hint_of_resolveColumn_eq_error, fun c => isLeast_editDistance name c.name⟩
  rw [resolveColumn_eq_ok_iff]
  constructor
  · rintro ⟨before, after, rfl, hc, hbefore⟩
    exact ⟨before, after, rfl, hc, hbefore, columnIndex?_of_first hc hbefore⟩
  · rintro ⟨before, after, hcolumns, hc, hbefore, -⟩
    exact ⟨before, after, hcolumns, hc, hbefore⟩

/-- Of two columns at the same distance the first is suggested, behind one that is too far away. -/
theorem resolveColumn_outcome_tie :
    let columns : List Column := [⟨"created"⟩, ⟨"nam"⟩, ⟨"name"⟩, ⟨"nam"⟩]
    resolveColumn columns "nmae" = .error (.unknownColumn "nmae" (some "nam")) ∧
      ((some "nam").isSome ↔ ∃ c ∈ columns, editDistance "nmae" c.name ≤ 3) ∧
      ∀ s ∈ some "nam", s ≠ "nmae" ∧ 0 < editDistance "nmae" s ∧ editDistance "nmae" s ≤ 3 := by
  intro columns
  have h : resolveColumn columns "nmae" = .error (.unknownColumn "nmae" (some "nam")) := rfl
  exact ⟨h, (resolveColumn_outcome columns "nmae").2.2.1 _ h⟩

end FindSelect
