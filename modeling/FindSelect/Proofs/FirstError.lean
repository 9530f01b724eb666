import Mathlib.Data.List.Forall2

/-!
# The first error of a row

A step that may fail is taken at every item of a list. It gives all the results, in order, or the
error of the first item at which it fails.

* `map_eq_ok_iff`, `map_eq_error_iff`, `bind_eq_ok_iff`: one step after another;
* `mapM_eq_ok_iff`, `isOk_mapM_iff`: all the results;
* `mapM_ite`, `mapM_check_eq_ok_iff`: items that are only checked;
* `mapM_eq_error_iff`: the first error.
-/

namespace FindSelect

variable {α β ε : Type} {f : α → Except ε β}

theorem map_eq_ok_iff {g : α → β} {x : Except ε α} {b : β} :
    g <$> x = .ok b ↔ ∃ a, x = .ok a ∧ g a = b := by
  cases x with
  | error e => simp [Functor.map, Except.map]
  | ok a => simp [Functor.map, Except.map]

theorem map_eq_error_iff {g : α → β} {x : Except ε α} {e : ε} :
    g <$> x = .error e ↔ x = .error e := by
  cases x with
  | error e => simp [Functor.map, Except.map]
  | ok a => simp [Functor.map, Except.map]

theorem isOk_map_iff {g : α → β} {x : Except ε α} : (g <$> x).isOk ↔ x.isOk := by
  cases x with
  | error e => rfl
  | ok a => rfl

theorem bind_eq_ok_iff {x : Except ε α} {b : β} :
    x >>= f = .ok b ↔ ∃ a, x = .ok a ∧ f a = .ok b := by
  cases x with
  | error e => simp [bind, Except.bind]
  | ok a => simp [bind, Except.bind]

theorem bind_pair_eq_ok_iff {γ : Type} {x : Except ε α} {y : Except ε β} {g : α → β → γ} {c : γ} :
    (do
      let a ← x
      let b ← y
      return g a b) = .ok c ↔ ∃ a b, x = .ok a ∧ y = .ok b ∧ g a b = c := by
  cases x with
  | error e => simp [bind, Except.bind]
  | ok a =>
    cases y with
    | error e => simp [bind, Except.bind]
    | ok b => simp [bind, Except.bind, pure, Except.pure]

theorem mapError_eq_ok_iff {ε' : Type} {g : ε → ε'} {x : Except ε α} {a : α} :
    x.mapError g = .ok a ↔ x = .ok a := by
  cases x with
  | error e => simp [Except.mapError]
  | ok a => simp [Except.mapError]

theorem mapM_cons_of_ok {x : α} {y : β} (h : f x = .ok y) (xs : List α) :
    (x :: xs).mapM f = (y :: ·) <$> xs.mapM f := by
  rw [List.mapM_cons, h]
  rfl

theorem mapM_cons_of_error {x : α} {e : ε} (h : f x = .error e) (xs : List α) :
    (x :: xs).mapM f = .error e := by
  rw [List.mapM_cons, h]
  rfl

theorem mapM_eq_ok_iff {xs : List α} {ys : List β} :
    xs.mapM f = .ok ys ↔ List.Forall₂ (fun x y => f x = .ok y) xs ys := by
  induction xs generalizing ys with
  | nil => cases ys <;> simp [pure, Except.pure]
  | cons x xs ih =>
    cases hx : f x with
    | error e =>
      rw [mapM_cons_of_error hx]
      cases ys <;> simp [hx]
    | ok y =>
      rw [mapM_cons_of_ok hx]
      cases hxs : xs.mapM f with
      | error e => cases ys <;> simp [hx, ← ih, hxs, Functor.map, Except.map]
      | ok zs => cases ys <;> simp [hx, ← ih, hxs, Functor.map, Except.map]

theorem isOk_mapM_iff {xs : List α} : (xs.mapM f).isOk ↔ ∀ x ∈ xs, (f x).isOk := by
  induction xs with
  | nil => exact iff_of_true rfl (List.forall_mem_nil _)
  | cons x xs ih =>
    rw [List.forall_mem_cons, ← ih]
    cases hx : f x with
    | error e =>
      rw [mapM_cons_of_error hx]
      exact iff_of_false Bool.noConfusion fun h => Bool.noConfusion h.1
    | ok y =>
      rw [mapM_cons_of_ok hx]
      cases xs.mapM f with
      | error e => exact iff_of_false Bool.noConfusion fun h => Bool.noConfusion h.2
      | ok ys => exact iff_of_true rfl ⟨rfl, rfl⟩

theorem mapM_ite {p : α → Prop} [DecidablePred p] {e : ε} (xs : List α) :
    xs.mapM (fun x => if p x then Except.ok x else .error e) =
      if ∀ x ∈ xs, p x then .ok xs else .error e := by
  induction xs with
  | nil => rw [if_pos (List.forall_mem_nil p)]; rfl
  | cons x xs ih =>
    rw [List.mapM_cons, ih]
    simp only [List.forall_mem_cons]
    by_cases hx : p x
    · by_cases hxs : ∀ y ∈ xs, p y
      · rw [if_pos hx, if_pos hxs, if_pos ⟨hx, hxs⟩]
        rfl
      · rw [if_pos hx, if_neg hxs, if_neg (fun h => hxs h.2)]
        rfl
    · have hall : ¬ (p x ∧ ∀ y ∈ xs, p y) := fun h => hx h.1
      rw [if_neg hx, if_neg hall]
      rfl

theorem mapM_check_eq_ok_iff {p : α → Prop} {f : α → Except ε α} {xs ys : List α}
    (h : ∀ x ∈ xs, ∀ y, f x = .ok y ↔ x = y ∧ p x) :
    xs.mapM f = .ok ys ↔ xs = ys ∧ ∀ x ∈ xs, p x := by
  rw [mapM_eq_ok_iff]
  induction xs generalizing ys with
  | nil => cases ys <;> simp
  | cons x xs ih =>
    rw [List.forall_mem_cons] at h
    cases ys with
    | nil => simp
    | cons y ys =>
      rw [List.forall₂_cons, h.1, ih h.2, List.forall_mem_cons, List.cons.injEq]
      exact and_and_and_comm

/-- The first error of a row: the items before it have results. -/
theorem mapM_eq_error_iff {xs : List α} {e : ε} :
    xs.mapM f = .error e ↔
      ∃ before x after, xs = before ++ x :: after ∧ (∀ y ∈ before, (f y).isOk) ∧
        f x = .error e := by
  constructor
  · intro h
    induction xs with
    | nil => cases h
    | cons x xs ih =>
      cases hx : f x with
      | error e' =>
        rw [mapM_cons_of_error hx] at h
        cases h
        exact ⟨[], x, xs, rfl, by simp, hx⟩
      | ok y =>
        rw [mapM_cons_of_ok hx] at h
        cases hxs : xs.mapM f with
        | ok ys => rw [hxs] at h; cases h
        | error e' =>
          rw [hxs] at h
          obtain ⟨before, z, after, rfl, hok, hz⟩ := ih (hxs.trans h)
          refine ⟨x :: before, z, after, rfl, ?_, hz⟩
          rw [List.forall_mem_cons]
          exact ⟨by rw [hx]; rfl, hok⟩
  · rintro ⟨before, x, after, rfl, hok, hx⟩
    induction before with
    | nil => exact mapM_cons_of_error hx after
    | cons y before ih =>
      rw [List.forall_mem_cons] at hok
      cases hy : f y with
      | error e' => rw [hy] at hok; exact Bool.noConfusion hok.1
      | ok z => rw [List.cons_append, mapM_cons_of_ok hy, ih hok.2]; rfl

end FindSelect
