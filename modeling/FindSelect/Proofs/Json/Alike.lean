import FindSelect.Proofs.Agreement
import FindSelect.Proofs.Json.Shape
import Mathlib.Data.List.Nodup
import Mathlib.Data.List.Perm.Subperm

/-!
# Values that are alike

Values are alike when they differ only in the order of the entries of documents. Of two documents
that are alike, with distinct keys, the entries of one are those of the other in another order, up
to the order of entries further inside.

* `Json.alikeItems_iff`, `Json.alikeEntries_iff`: lists and documents, member by member;
* **`Json.rearranged_of_alike`**: the entries of documents that are alike;
* `Json.lookup_of_alike`: the values of a key.
-/

namespace FindSelect.Json

theorem alikeItems_iff {xs ys : List Json} :
    alikeItems xs ys = true ↔ List.Forall₂ (fun v w => alike v w = true) xs ys := by
  induction xs generalizing ys with
  | nil => cases ys <;> simp [alikeItems]
  | cons x xs ih => cases ys <;> simp [alikeItems, ih]

theorem alikeEntries_iff {es fs : Entries} :
    alikeEntries es fs = true ↔ ∀ e ∈ es, ∃ w, fs.lookup e.1 = some w ∧ alike e.2 w = true := by
  induction es with
  | nil => simp [alikeEntries]
  | cons e es ih =>
    rw [alikeEntries, Bool.and_eq_true, ih, List.forall_mem_cons]
    refine and_congr_left fun _ => ?_
    cases fs.lookup e.1 with
    | none => simp
    | some w => simp

/-- Entries of one key whose values are alike. -/
def EntryAlike (e f : String × Json) : Prop := e.1 = f.1 ∧ e.2.alike f.2 = true

theorem keys_eq_of_forall₂ {es gs : Entries} (h : List.Forall₂ EntryAlike es gs) :
    es.map Prod.fst = gs.map Prod.fst := by
  induction h with
  | nil => rfl
  | cons he _ ih => rw [List.map_cons, List.map_cons, he.1, ih]

theorem mem_of_lookup {key : String} {v : Json} {entries : Entries}
    (h : entries.lookup key = some v) : (key, v) ∈ entries := by
  obtain ⟨before, after, rfl, -⟩ := List.lookup_eq_some_iff.1 h
  exact List.mem_append_right before List.mem_cons_self

theorem exists_likes {es fs : Entries} (h : alikeEntries es fs = true) :
    ∃ gs : Entries, List.Forall₂ EntryAlike es gs ∧ gs ⊆ fs := by
  rw [alikeEntries_iff] at h
  induction es with
  | nil => exact ⟨[], .nil, List.nil_subset fs⟩
  | cons e es ih =>
    rw [List.forall_mem_cons] at h
    obtain ⟨⟨w, hw, halike⟩, hes⟩ := h
    obtain ⟨gs, hgs, hsub⟩ := ih hes
    refine ⟨(e.1, w) :: gs, .cons ⟨rfl, halike⟩ hgs, ?_⟩
    exact List.cons_subset.2 ⟨mem_of_lookup hw, hsub⟩

/-- **Documents that are alike.** When the keys of the first are distinct, the entries of the second
are their likes in another order: they are as many, and none of them is the like of two. -/
theorem rearranged_of_alike {es fs : Entries} (hkeys : (es.map Prod.fst).Nodup)
    (h : (document es).alike (document fs) = true) : Rearranged EntryAlike es fs := by
  rw [alike, Bool.and_eq_true, beq_iff_eq] at h
  obtain ⟨gs, hgs, hsub⟩ := exists_likes h.2
  have hnodup : gs.Nodup := by
    rw [keys_eq_of_forall₂ hgs] at hkeys
    exact List.Nodup.of_map Prod.fst hkeys
  have hlength : fs.length ≤ gs.length := by
    have := hgs.length_eq
    omega
  exact ⟨gs, hgs, (hnodup.subperm hsub).perm_of_length_le hlength⟩

theorem mem_keys_of_alike {es fs : Entries} (h : Rearranged EntryAlike es fs) (key : String) :
    key ∈ es.map Prod.fst ↔ key ∈ fs.map Prod.fst := by
  obtain ⟨gs, hgs, hperm⟩ := h
  rw [keys_eq_of_forall₂ hgs]
  exact (hperm.map Prod.fst).mem_iff

theorem lookup_eq_none_iff {key : String} {entries : Entries} :
    entries.lookup key = none ↔ key ∉ entries.map Prod.fst := by
  rw [List.lookup_eq_none_iff, List.mem_map]
  constructor
  · rintro h ⟨e, he, rfl⟩
    exact bne_iff_ne.1 (h e he) rfl
  · intro h e he
    exact bne_iff_ne.2 fun heq => h ⟨e, he, heq.symm⟩

theorem lookup_of_alike {es fs : Entries} (hkeys : (es.map Prod.fst).Nodup)
    (h : (document es).alike (document fs) = true) (key : String) :
    Option.Rel (fun v w => alike v w = true) (es.lookup key) (fs.lookup key) := by
  have hsame := mem_keys_of_alike (rearranged_of_alike hkeys h) key
  rw [alike, Bool.and_eq_true] at h
  cases hes : es.lookup key with
  | some v =>
    obtain ⟨w, hw, halike⟩ := alikeEntries_iff.1 h.2 _ (mem_of_lookup hes)
    rw [hw]
    exact .some halike
  | none =>
    rw [lookup_eq_none_iff, hsame, ← lookup_eq_none_iff] at hes
    rw [hes]
    exact .none

end FindSelect.Json
