import FindSelect.Json.Basic
import Mathlib.Tactic.Common

/-!
# The shape of values

Nesting, distinct keys and the absence of floating-point numbers are told item by item and entry by
entry.

* `Json.RealFree`, `Json.Plain`: values that their text tells exactly;
* `Json.inLists`: a value under a number of brackets;
* `Json.nesting_list_le_iff`, `Json.nesting_document_le_iff`: a value nests no deeper than its
  parts allow.
-/

namespace FindSelect.Json

/-! ## Nesting -/

theorem nestingItems_le_iff {items : List Json} {n : Nat} :
    nestingItems items ≤ n ↔ ∀ v ∈ items, v.nesting ≤ n := by
  induction items with
  | nil => simp [nestingItems]
  | cons v items ih => rw [nestingItems, Nat.max_le, ih, List.forall_mem_cons]

theorem nestingEntries_le_iff {entries : Entries} {n : Nat} :
    nestingEntries entries ≤ n ↔ ∀ e ∈ entries, e.2.nesting ≤ n := by
  induction entries with
  | nil => simp [nestingEntries]
  | cons e entries ih => rw [nestingEntries, Nat.max_le, ih, List.forall_mem_cons]

theorem nesting_list_le_iff {items : List Json} {n : Nat} :
    (Json.list items).nesting ≤ n + 1 ↔ ∀ v ∈ items, v.nesting ≤ n := by
  rw [nesting, Nat.add_le_add_iff_right, nestingItems_le_iff]

theorem nesting_document_le_iff {entries : Entries} {n : Nat} :
    (Json.document entries).nesting ≤ n + 1 ↔ ∀ e ∈ entries, e.2.nesting ≤ n := by
  rw [nesting, Nat.add_le_add_iff_right, nestingEntries_le_iff]

/-! ## Plain values -/

mutual

/-- No floating-point number is inside the value. -/
def RealFree : Json → Prop
  | .number (.real _) => False
  | .list items => RealFreeItems items
  | .document entries => RealFreeEntries entries
  | _ => True

/-- No floating-point number is inside the items of a list. -/
def RealFreeItems : List Json → Prop
  | [] => True
  | v :: items => RealFree v ∧ RealFreeItems items

/-- No floating-point number is inside the values of a document. -/
def RealFreeEntries : List (String × Json) → Prop
  | [] => True
  | (_, v) :: entries => RealFree v ∧ RealFreeEntries entries

end

/-- A value without floating-point numbers in which no document has a key twice. -/
structure Plain (v : Json) : Prop where
  realFree : v.RealFree
  distinctKeys : v.DistinctKeys

theorem plain_null : Plain .null := ⟨trivial, trivial⟩

theorem plain_string (s : String) : Plain (.string s) := ⟨trivial, trivial⟩

theorem realFreeItems_iff {items : List Json} :
    RealFreeItems items ↔ ∀ v ∈ items, v.RealFree := by
  induction items with
  | nil => simp [RealFreeItems]
  | cons v items ih => rw [RealFreeItems, ih, List.forall_mem_cons]

theorem realFreeEntries_iff {entries : Entries} :
    RealFreeEntries entries ↔ ∀ e ∈ entries, e.2.RealFree := by
  induction entries with
  | nil => simp [RealFreeEntries]
  | cons e entries ih => rw [RealFreeEntries, ih, List.forall_mem_cons]

theorem distinctKeysItems_iff {items : List Json} :
    DistinctKeysItems items ↔ ∀ v ∈ items, v.DistinctKeys := by
  induction items with
  | nil => simp [DistinctKeysItems]
  | cons v items ih => rw [DistinctKeysItems, ih, List.forall_mem_cons]

theorem distinctKeysEntries_iff {entries : Entries} :
    DistinctKeysEntries entries ↔ ∀ e ∈ entries, e.2.DistinctKeys := by
  induction entries with
  | nil => simp [DistinctKeysEntries]
  | cons e entries ih => rw [DistinctKeysEntries, ih, List.forall_mem_cons]

theorem plain_list_iff {items : List Json} : Plain (.list items) ↔ ∀ v ∈ items, v.Plain := by
  constructor
  · intro h v hv
    exact ⟨realFreeItems_iff.1 h.realFree v hv, distinctKeysItems_iff.1 h.distinctKeys v hv⟩
  · intro h
    exact ⟨realFreeItems_iff.2 fun v hv => (h v hv).realFree,
      distinctKeysItems_iff.2 fun v hv => (h v hv).distinctKeys⟩

theorem plain_document_iff {entries : Entries} :
    Plain (.document entries) ↔
      (entries.map Prod.fst).Nodup ∧ ∀ e ∈ entries, e.2.Plain := by
  constructor
  · intro h
    refine ⟨h.distinctKeys.1, fun e he => ⟨realFreeEntries_iff.1 h.realFree e he, ?_⟩⟩
    exact distinctKeysEntries_iff.1 h.distinctKeys.2 e he
  · rintro ⟨hkeys, h⟩
    exact ⟨realFreeEntries_iff.2 fun e he => (h e he).realFree,
      hkeys, distinctKeysEntries_iff.2 fun e he => (h e he).distinctKeys⟩

/-! ## Values inside lists -/

/-- A value inside a number of lists. -/
def inLists (v : Json) : Nat → Json
  | 0 => v
  | n + 1 => .list [inLists v n]

theorem nesting_inLists (v : Json) (n : Nat) : (v.inLists n).nesting = v.nesting + n := by
  induction n with
  | zero => rfl
  | succ n ih =>
    simp only [inLists, nesting, nestingItems]
    omega

theorem plain_inLists {v : Json} (hv : v.Plain) (n : Nat) : (v.inLists n).Plain := by
  induction n with
  | zero => exact hv
  | succ n ih =>
    rw [inLists, plain_list_iff, List.forall_mem_singleton]
    exact ih

end FindSelect.Json
