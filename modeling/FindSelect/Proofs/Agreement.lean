import FindSelect.Proofs.FirstError
import Mathlib.Data.List.Perm.Basic

/-!
# Two runs side by side

Two runs that may fail agree when both succeed, with results that correspond, or both fail, with
errors that correspond. Runs made of agreeing steps agree.

* `Agree`: agreement, up to a relation on results and one on errors;
* `agree_of_ok_iff`: agreement on success alone;
* `Agree.bind`, `agree_foldlM`, `agree_mapM`: steps after one another;
* `Rearranged`: rows that correspond item by item in another order;
* **`agree_mapM_rearranged`**: steps taken in another order, when all the errors correspond.
-/

namespace FindSelect

variable {α β γ δ σ ε : Type}

/-- Both runs succeed, with results that correspond, or both fail, with errors that correspond. -/
inductive Agree (R : α → β → Prop) (E : ε → ε → Prop) : Except ε α → Except ε β → Prop
  | ok {a : α} {b : β} : R a b → Agree R E (.ok a) (.ok b)
  | error {e e' : ε} : E e e' → Agree R E (.error e) (.error e')

section Agree

variable {R : α → β → Prop} {S : γ → δ → Prop} {E : ε → ε → Prop}

theorem Agree.bind {x : Except ε α} {y : Except ε β} {f : α → Except ε γ} {g : β → Except ε δ}
    (h : Agree R E x y) (hfg : ∀ a b, R a b → Agree S E (f a) (g b)) :
    Agree S E (x >>= f) (y >>= g) := by
  cases h with
  | ok hab => exact hfg _ _ hab
  | error he => exact .error he

theorem Agree.map {x : Except ε α} {y : Except ε β} {f : α → γ} {g : β → δ}
    (h : Agree R E x y) (hfg : ∀ a b, R a b → S (f a) (g b)) :
    Agree S E (f <$> x) (g <$> y) := by
  cases h with
  | ok hab => exact .ok (hfg _ _ hab)
  | error he => exact .error he

theorem Agree.imp {R' : α → β → Prop} {E' : ε → ε → Prop} {x : Except ε α} {y : Except ε β}
    (h : Agree R E x y) (hR : ∀ a b, R a b → R' a b) (hE : ∀ e e', E e e' → E' e e') :
    Agree R' E' x y := by
  cases h with
  | ok hab => exact .ok (hR _ _ hab)
  | error he => exact .error (hE _ _ he)

theorem agree_of_ok_iff {x : Except ε α} {y : Except ε β}
    (h : ∀ a, x = .ok a → ∃ b, y = .ok b ∧ R a b) (h' : ∀ b, y = .ok b → ∃ a, x = .ok a) :
    Agree R (fun _ _ => True) x y := by
  cases hx : x with
  | ok a =>
    obtain ⟨b, rfl, hab⟩ := h a hx
    exact .ok hab
  | error e =>
    cases hy : y with
    | ok b =>
      obtain ⟨a, ha⟩ := h' b hy
      rw [hx] at ha
      cases ha
    | error e' => exact .error trivial

theorem agree_foldlM {f : σ → α → Except ε σ} {g : σ → α → Except ε σ} (xs : List α)
    (h : ∀ s x, Agree Eq E (f s x) (g s x)) (s : σ) :
    Agree Eq E (xs.foldlM f s) (xs.foldlM g s) := by
  induction xs generalizing s with
  | nil => exact .ok rfl
  | cons x xs ih =>
    rw [List.foldlM_cons, List.foldlM_cons]
    refine (h s x).bind fun t t' ht => ?_
    subst ht
    exact ih t

theorem agree_mapM {f : α → Except ε γ} {g : β → Except ε δ} {xs : List α} {ys : List β}
    (h : List.Forall₂ R xs ys) (hfg : ∀ x y, R x y → Agree S E (f x) (g y)) :
    Agree (List.Forall₂ S) E (xs.mapM f) (ys.mapM g) := by
  induction h with
  | nil => exact .ok .nil
  | cons hxy _ ih =>
    rw [List.mapM_cons, List.mapM_cons]
    exact (hfg _ _ hxy).bind fun a b hab => ih.bind fun as bs habs => .ok (.cons hab habs)

end Agree

/-! ## Rows in another order -/

/-- The items of one row correspond to those of the other, in another order. -/
def Rearranged (R : α → β → Prop) (xs : List α) (ys : List β) : Prop :=
  ∃ zs, List.Forall₂ R xs zs ∧ zs.Perm ys

section Rearranged

variable {R : α → β → Prop} {S : γ → δ → Prop} {E : ε → ε → Prop}

theorem rearranged_of_forall₂ {xs : List α} {ys : List β} (h : List.Forall₂ R xs ys) :
    Rearranged R xs ys :=
  ⟨ys, h, .refl ys⟩

theorem Rearranged.append {xs xs' : List α} {ys ys' : List β} (h : Rearranged R xs ys)
    (h' : Rearranged R xs' ys') : Rearranged R (xs ++ xs') (ys ++ ys') := by
  obtain ⟨zs, hzs, hperm⟩ := h
  obtain ⟨zs', hzs', hperm'⟩ := h'
  exact ⟨zs ++ zs', List.rel_append hzs hzs', hperm.append hperm'⟩

theorem Rearranged.trans_perm {xs : List α} {ys ys' : List β} (h : Rearranged R xs ys)
    (hperm : ys.Perm ys') : Rearranged R xs ys' := by
  obtain ⟨zs, hzs, hzsys⟩ := h
  exact ⟨zs, hzs, hzsys.trans hperm⟩

theorem perm_mapM_eq_ok {g : β → Except ε δ} {ys zs : List β} {bs : List δ} (h : ys.Perm zs)
    (hzs : zs.mapM g = .ok bs) : ∃ cs, ys.mapM g = .ok cs ∧ cs.Perm bs := by
  obtain ⟨cs, hcs, hperm⟩ := List.perm_comp_forall₂ h (mapM_eq_ok_iff.1 hzs)
  exact ⟨cs, mapM_eq_ok_iff.2 hcs, hperm⟩

theorem exists_mem_of_mapM_eq_error {f : α → Except ε γ} {xs : List α} {e : ε}
    (h : xs.mapM f = .error e) : ∃ x ∈ xs, f x = .error e := by
  obtain ⟨before, x, after, rfl, -, hx⟩ := mapM_eq_error_iff.1 h
  exact ⟨x, List.mem_append_right before List.mem_cons_self, hx⟩

/-- **Steps in another order.** They succeed on one row as on the other. Which error is met first
may differ, so the errors of all items must correspond to each other. -/
theorem agree_mapM_rearranged {f : α → Except ε γ} {g : β → Except ε δ} {xs : List α}
    {ys : List β} (h : Rearranged R xs ys) (hfg : ∀ x y, R x y → Agree S E (f x) (g y))
    (herror : ∀ x ∈ xs, ∀ y ∈ ys, ∀ e e', f x = .error e → g y = .error e' → E e e') :
    Agree (Rearranged S) E (xs.mapM f) (ys.mapM g) := by
  obtain ⟨zs, hzs, hperm⟩ := h
  have hagree : Agree (List.Forall₂ S) E (xs.mapM f) (zs.mapM g) := agree_mapM hzs hfg
  cases hx : xs.mapM f with
  | ok as =>
    rw [hx] at hagree
    cases hz : zs.mapM g with
    | error e => rw [hz] at hagree; cases hagree
    | ok bs =>
      rw [hz] at hagree
      obtain ⟨cs, hcs, hcsbs⟩ := perm_mapM_eq_ok hperm.symm hz
      cases hagree with
      | ok hab => rw [hcs]; exact .ok ⟨bs, hab, hcsbs.symm⟩
  | error e =>
    rw [hx] at hagree
    cases hy : ys.mapM g with
    | ok bs =>
      obtain ⟨cs, hcs, -⟩ := perm_mapM_eq_ok hperm hy
      rw [hcs] at hagree
      cases hagree
    | error e' =>
      -- the two errors may be those of items that do not correspond
      obtain ⟨x, hxmem, hxe⟩ := exists_mem_of_mapM_eq_error hx
      obtain ⟨y, hymem, hye⟩ := exists_mem_of_mapM_eq_error hy
      exact .error (herror x hxmem y hymem e e' hxe hye)

end Rearranged

end FindSelect
