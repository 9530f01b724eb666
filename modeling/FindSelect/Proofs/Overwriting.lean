/-!
# Steps that overwrite

A row of steps changes a state. Where every step either puts something new into a component or leaves
the component as it was, the component holds in the end what was put there last.

* `lastOf?`: the last thing that the items of a row give;
* **`view_foldl_or`**, `view_foldl_getD`: a component after a row of steps.
-/

namespace FindSelect

variable {α β σ : Type}

/-- The last thing that the items of a row give, if any of them gives one. -/
def lastOf? (give : α → Option β) (xs : List α) : Option β := (xs.filterMap give).getLast?

theorem lastOf?_cons (give : α → Option β) (x : α) (xs : List α) :
    lastOf? give (x :: xs) = (lastOf? give xs).or (give x) := by
  unfold lastOf?
  cases hx : give x with
  | none => rw [List.filterMap_cons_none hx, Option.or_none]
  | some b =>
    rw [List.filterMap_cons_some hx, List.getLast?_cons]
    cases (xs.filterMap give).getLast? with
    | none => rfl
    | some c => rfl

/-- **A component that steps overwrite**, and that may be absent, holds what was put there last. -/
theorem view_foldl_or (view : σ → Option β) {step : σ → α → σ} {give : α → Option β} {xs : List α}
    (h : ∀ x ∈ xs, ∀ s, view (step s x) = (give x).or (view s)) (s : σ) :
    view (xs.foldl step s) = (lastOf? give xs).or (view s) := by
  induction xs generalizing s with
  | nil => rfl
  | cons x xs ih =>
    rw [List.forall_mem_cons] at h
    rw [List.foldl_cons, ih h.2, h.1, lastOf?_cons, Option.or_assoc]

theorem view_foldl_getD (view : σ → β) {step : σ → α → σ} {give : α → Option β} {xs : List α}
    (h : ∀ x ∈ xs, ∀ s, view (step s x) = (give x).getD (view s)) (s : σ) :
    view (xs.foldl step s) = (lastOf? give xs).getD (view s) := by
  have hsome : ∀ x ∈ xs, ∀ s, some (view (step s x)) = (give x).or (some (view s)) := by
    intro x hx s
    rw [h x hx s, Option.or_some]
  have hlast := view_foldl_or (fun s => some (view s)) hsome s
  rw [Option.or_some] at hlast
  exact Option.some.inj hlast

end FindSelect
