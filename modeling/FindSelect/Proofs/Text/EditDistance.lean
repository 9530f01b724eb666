import FindSelect.Text.EditDistance
import Mathlib.Order.Bounds.Basic
import Mathlib.Order.Nat

/-!
# The edit distance is the least number of edits

The table of the edit distance compares beginnings of the two texts. Read backwards, its entries
satisfy the usual recursion on the last characters, and the recursion counts the fewest edits that
turn one text into the other.

* `Edit`, `Edits`: one edit of a text, and a number of edits after one another;
* `backwardDistance`: the recursion on the last characters;
* `charDistance_eq`: the table computes it;
* `edits_backwardDistance`, `backwardDistance_le`: it is a number of edits, and the least;
* **`isLeast_editDistance`**: the edit distance is the least number of edits.
-/

namespace FindSelect.Text

/-! ## Edits -/

/-- One character is inserted, deleted or replaced. -/
inductive Edit : List Char → List Char → Prop
  | insert (before after : List Char) (c : Char) : Edit (before ++ after) (before ++ c :: after)
  | delete (before after : List Char) (c : Char) : Edit (before ++ c :: after) (before ++ after)
  | replace (before after : List Char) (c d : Char) :
    Edit (before ++ c :: after) (before ++ d :: after)

/-- A number of edits after one another. -/
inductive Edits : Nat → List Char → List Char → Prop
  | none (cs : List Char) : Edits 0 cs cs
  | step {n : Nat} {cs ds es : List Char} : Edit cs ds → Edits n ds es → Edits (n + 1) cs es

variable {cs ds : List Char} {n : Nat}

theorem Edit.cons (c : Char) (h : Edit cs ds) : Edit (c :: cs) (c :: ds) := by
  cases h with
  | insert before after d => exact .insert (c :: before) after d
  | delete before after d => exact .delete (c :: before) after d
  | replace before after d e => exact .replace (c :: before) after d e

theorem Edit.reverse (h : Edit cs ds) : Edit cs.reverse ds.reverse := by
  cases h with
  | insert before after c => simpa using Edit.insert after.reverse before.reverse c
  | delete before after c => simpa using Edit.delete after.reverse before.reverse c
  | replace before after c d => simpa using Edit.replace after.reverse before.reverse c d

theorem Edits.cons (c : Char) (h : Edits n cs ds) : Edits n (c :: cs) (c :: ds) := by
  induction h with
  | none cs => exact .none (c :: cs)
  | step hedit _ ih => exact .step (hedit.cons c) ih

theorem Edits.reverse (h : Edits n cs ds) : Edits n cs.reverse ds.reverse := by
  induction h with
  | none cs => exact .none cs.reverse
  | step hedit _ ih => exact .step hedit.reverse ih

theorem edits_zero_iff : Edits 0 cs ds ↔ cs = ds := by
  constructor
  · intro h
    cases h
    rfl
  · rintro rfl
    exact .none cs

theorem edits_reverse_iff : Edits n cs.reverse ds.reverse ↔ Edits n cs ds := by
  constructor
  · intro h
    have hback := h.reverse
    rwa [List.reverse_reverse, List.reverse_reverse] at hback
  · exact Edits.reverse

/-! ## The recursion on the last characters -/

/-- The edit distance of two texts that are given backwards. -/
def backwardDistance : List Char → List Char → Nat
  | [], bs => bs.length
  | as, [] => as.length
  | a :: as, b :: bs =>
    min (min (backwardDistance (a :: as) bs) (backwardDistance as (b :: bs)) + 1)
      (backwardDistance as bs + if a = b then 0 else 1)
termination_by as bs => as.length + bs.length

theorem backwardDistance_nil_left (bs : List Char) : backwardDistance [] bs = bs.length := by
  rw [backwardDistance]

theorem backwardDistance_nil_right (as : List Char) : backwardDistance as [] = as.length := by
  cases as <;> simp [backwardDistance]

theorem backwardDistance_cons (a b : Char) (as bs : List Char) :
    backwardDistance (a :: as) (b :: bs) =
      min (min (backwardDistance (a :: as) bs) (backwardDistance as (b :: bs)) + 1)
        (backwardDistance as bs + if a = b then 0 else 1) := by
  rw [backwardDistance]

/-! ## The table -/

/-- The row of the table for the beginning `as` of one text, given backwards: from behind the
beginning `qs` of the other text, given backwards too, to the end. -/
def tableRow (as : List Char) : List Char → List Char → List Nat
  | _, [] => []
  | qs, b :: bs => backwardDistance as (b :: qs) :: tableRow as (b :: qs) bs

theorem nextRow_tableRow (a : Char) (as qs bs : List Char) :
    nextRow a (backwardDistance as qs) (backwardDistance (a :: as) qs) bs (tableRow as qs bs) =
      tableRow (a :: as) qs bs := by
  induction bs generalizing qs with
  | nil => rfl
  | cons b bs ih =>
    rw [tableRow, nextRow, ← backwardDistance_cons, ih, tableRow]

theorem getLastD_tableRow (as qs bs : List Char) :
    (tableRow as qs bs).getLastD (backwardDistance as qs) = backwardDistance as (bs.reverse ++ qs) := by
  induction bs generalizing qs with
  | nil => rfl
  | cons b bs ih =>
    rw [tableRow, List.getLastD_cons, ih, List.reverse_cons, List.append_assoc]
    rfl

theorem lastEntry_tableRow (as bs cs : List Char) :
    lastEntry bs cs (backwardDistance as []) (tableRow as [] bs) =
      backwardDistance (cs.reverse ++ as) bs.reverse := by
  induction cs generalizing as with
  | nil => rw [lastEntry, getLastD_tableRow, List.append_nil, List.reverse_nil, List.nil_append]
  | cons c cs ih =>
    have hfirst : backwardDistance as [] + 1 = backwardDistance (c :: as) [] := by
      rw [backwardDistance_nil_right, backwardDistance_nil_right, List.length_cons]
    rw [lastEntry, hfirst, nextRow_tableRow, ih, List.reverse_cons, List.append_assoc]
    rfl

theorem tableRow_nil (qs bs : List Char) :
    tableRow [] qs bs = (List.range bs.length).map (· + (qs.length + 1)) := by
  induction bs generalizing qs with
  | nil => rfl
  | cons b bs ih =>
    have hfirst : backwardDistance [] (b :: qs) = 0 + (qs.length + 1) := by
      rw [backwardDistance_nil_left, List.length_cons, Nat.zero_add]
    have hrest : ((· + (qs.length + 1)) ∘ Nat.succ) = (· + ((b :: qs).length + 1)) := by
      funext i
      simp only [Function.comp_apply, List.length_cons]
      omega
    have hrange : List.range (b :: bs).length = 0 :: (List.range bs.length).map Nat.succ :=
      List.range_succ_eq_map
    rw [tableRow, hfirst, ih, hrange, List.map_cons, List.map_map, hrest]

theorem charDistance_eq (cs bs : List Char) :
    charDistance cs bs = backwardDistance cs.reverse bs.reverse := by
  have hrow : (List.range bs.length).map (· + 1) = tableRow [] [] bs := (tableRow_nil [] bs).symm
  have hlast := lastEntry_tableRow [] bs cs
  rw [backwardDistance_nil_left, List.append_nil] at hlast
  rw [charDistance, hrow]
  exact hlast

/-! ## As many edits -/

theorem Edits.insertHead (c : Char) (h : Edits n cs ds) : Edits (n + 1) cs (c :: ds) :=
  .step (.insert [] cs c) (h.cons c)

theorem Edits.deleteHead (c : Char) (h : Edits n cs ds) : Edits (n + 1) (c :: cs) ds :=
  .step (.delete [] cs c) h

theorem Edits.replaceHead (c d : Char) (h : Edits n cs ds) : Edits (n + 1) (c :: cs) (d :: ds) :=
  .step (.replace [] cs c d) (h.cons d)

theorem Edits.min {m : Nat} (hm : Edits m cs ds) (hn : Edits n cs ds) :
    Edits (min m n) cs ds := by
  rcases Nat.le_total m n with hle | hle
  · rwa [Nat.min_eq_left hle]
  · rwa [Nat.min_eq_right hle]

theorem edits_nil_left (bs : List Char) : Edits bs.length [] bs := by
  induction bs with
  | nil => exact .none []
  | cons b bs ih => exact ih.insertHead b

theorem edits_nil_right (as : List Char) : Edits as.length as [] := by
  induction as with
  | nil => exact .none []
  | cons a as ih => exact ih.deleteHead a

/-- The recursion counts edits: its three cases end with an insertion, a deletion, or two characters
that face each other. -/
theorem edits_backwardDistance (as bs : List Char) : Edits (backwardDistance as bs) as bs := by
  induction as, bs using backwardDistance.induct with
  | case1 bs =>
    rw [backwardDistance_nil_left]
    exact edits_nil_left bs
  | case2 as _ =>
    rw [backwardDistance_nil_right]
    exact edits_nil_right as
  | case3 a as b bs hinsert hdelete hface =>
    rw [backwardDistance_cons, ← Nat.add_min_add_right]
    refine ((hinsert.insertHead b).min (hdelete.deleteHead a)).min ?_
    by_cases hab : a = b
    · rw [if_pos hab, hab]
      exact hface.cons b
    · rw [if_neg hab]
      exact hface.replaceHead a b

/-! ## No fewer edits -/

theorem backwardDistance_cons_le (a : Char) (as bs : List Char) :
    backwardDistance (a :: as) bs ≤ backwardDistance as bs + 1 := by
  cases bs with
  | nil => simp [backwardDistance_nil_right]
  | cons b bs =>
    rw [backwardDistance_cons]
    omega

theorem backwardDistance_le_cons_right (as bs : List Char) (b : Char) :
    backwardDistance as (b :: bs) ≤ backwardDistance as bs + 1 := by
  cases as with
  | nil => simp [backwardDistance_nil_left]
  | cons a as =>
    rw [backwardDistance_cons]
    omega

theorem backwardDistance_le_cons (a : Char) (as bs : List Char) :
    backwardDistance as bs ≤ backwardDistance (a :: as) bs + 1 := by
  induction bs with
  | nil =>
    rw [backwardDistance_nil_right, backwardDistance_nil_right, List.length_cons]
    omega
  | cons b bs ih =>
    have hright := backwardDistance_le_cons_right as bs b
    rw [backwardDistance_cons]
    omega

theorem backwardDistance_replace_le (c d : Char) (as bs : List Char) :
    backwardDistance (c :: as) bs ≤ backwardDistance (d :: as) bs + 1 := by
  induction bs with
  | nil => simp [backwardDistance_nil_right]
  | cons b bs ih =>
    rw [backwardDistance_cons, backwardDistance_cons]
    split_ifs <;> omega

theorem backwardDistance_cons_le_cons {as as' : List Char}
    (h : ∀ bs, backwardDistance as bs ≤ backwardDistance as' bs + 1) (c : Char) (bs : List Char) :
    backwardDistance (c :: as) bs ≤ backwardDistance (c :: as') bs + 1 := by
  induction bs with
  | nil =>
    have hnil := h []
    simp only [backwardDistance_nil_right, List.length_cons] at hnil ⊢
    omega
  | cons b bs ih =>
    have hdelete := h (b :: bs)
    have hface := h bs
    rw [backwardDistance_cons, backwardDistance_cons]
    split_ifs <;> omega

theorem Edit.backwardDistance_le (h : Edit cs ds) (bs : List Char) :
    backwardDistance cs bs ≤ backwardDistance ds bs + 1 := by
  have hbehind {as as' : List Char} (before : List Char)
      (h : ∀ bs, backwardDistance as bs ≤ backwardDistance as' bs + 1) :
      ∀ bs, backwardDistance (before ++ as) bs ≤ backwardDistance (before ++ as') bs + 1 := by
    induction before with
    | nil => exact h
    | cons c before ih => exact backwardDistance_cons_le_cons ih c
  cases h with
  | insert before after c => exact hbehind before (backwardDistance_le_cons c after) bs
  | delete before after c => exact hbehind before (backwardDistance_cons_le c after) bs
  | replace before after c d => exact hbehind before (backwardDistance_replace_le c d after) bs

theorem backwardDistance_self (as : List Char) : backwardDistance as as = 0 := by
  induction as with
  | nil => exact backwardDistance_nil_left []
  | cons a as ih =>
    rw [backwardDistance_cons, ih, if_pos rfl]
    omega

theorem Edits.backwardDistance_le (h : Edits n cs ds) : backwardDistance cs ds ≤ n := by
  induction h with
  | none cs => exact Nat.le_of_eq (backwardDistance_self cs)
  | @step n cs ds es hedit _ ih =>
    have hstep := hedit.backwardDistance_le es
    omega

/-! ## The distance of texts -/

/-- **The edit distance is the least number of edits.** -/
theorem isLeast_editDistance (s t : String) :
    IsLeast {n | Edits n s.toList t.toList} (editDistance s t) := by
  have hdistance : editDistance s t = backwardDistance s.toList.reverse t.toList.reverse :=
    charDistance_eq s.toList t.toList
  rw [hdistance]
  constructor
  · exact edits_reverse_iff.1 (edits_backwardDistance _ _)
  · intro n hn
    exact (Edits.reverse hn).backwardDistance_le

theorem editDistance_eq_zero_iff {s t : String} : editDistance s t = 0 ↔ s = t := by
  have hleast := isLeast_editDistance s t
  constructor
  · intro h
    have hedits : Edits (editDistance s t) s.toList t.toList := hleast.1
    rw [h, edits_zero_iff] at hedits
    exact String.toList_inj.1 hedits
  · rintro rfl
    exact Nat.le_zero.1 (hleast.2 (Edits.none s.toList))

end FindSelect.Text
