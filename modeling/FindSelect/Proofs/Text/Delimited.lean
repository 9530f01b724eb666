import Mathlib.Tactic.Common

/-!
# Texts that tell where they end

A text is written part after part, with separators and leading words in between, and a part may
contain anything that also stands between parts. It can still be taken apart when the text of each
part determines the part and its own end.

* `Stopped`: a text does not begin with a character of a class;
* `Determines`: the text of a part determines the part, and where it ends;
* `determines_of_read`, `determines_span`: by a reader, or because the part is a span of one class;
* `Determines.joined`, `Determines.whenPresent`: the same for rows of parts with a separator, and for
  parts that may be absent;
* **`Determines.rowClause`**, **`Determines.partClause`**: the same for optional clauses with a lead;
* `GoesOn`: which clauses can follow.
-/

namespace FindSelect.Text

/-! ## Spans -/

/-- The text does not begin with a character of the class. -/
def Stopped (p : Char → Bool) (rest : List Char) : Prop := ∀ c ∈ rest.head?, p c = false

theorem stopped_nil (p : Char → Bool) : Stopped p [] := by
  rintro c ⟨⟩

theorem stopped_cons {p : Char → Bool} {c : Char} (hc : p c = false) (cs : List Char) :
    Stopped p (c :: cs) := by
  rintro d ⟨⟩
  exact hc

section Span

variable {p : Char → Bool} {span rest : List Char}

theorem takeWhile_append_of_stopped (hspan : ∀ c ∈ span, p c = true) (hrest : Stopped p rest) :
    (span ++ rest).takeWhile p = span := by
  rw [List.takeWhile_append_of_pos hspan]
  cases rest with
  | nil => exact List.append_nil span
  | cons c rest =>
    have hc : p c = false := hrest c rfl
    rw [List.takeWhile_cons_of_neg (by simp [hc]), List.append_nil]

theorem dropWhile_append_of_stopped (hspan : ∀ c ∈ span, p c = true) (hrest : Stopped p rest) :
    (span ++ rest).dropWhile p = rest := by
  rw [List.dropWhile_append_of_pos hspan]
  cases rest with
  | nil => rfl
  | cons c rest =>
    have hc : p c = false := hrest c rfl
    exact List.dropWhile_cons_of_neg (by simp [hc])

end Span

/-! ## Parts -/

variable {α β γ : Type}

/-- Where the text of a part is followed by something that `after` admits, it determines what `view`
shows of the part, and what follows. Only parts that are `fit` are asked about. -/
def Determines (text : α → List Char) (view : α → β) (fit : α → Prop)
    (after : List Char → Prop) : Prop :=
  ∀ ⦃a b : α⦄, fit a → fit b → ∀ ⦃r s : List Char⦄, after r → after s →
    text a ++ r = text b ++ s → view a = view b ∧ r = s

section Determines

variable {text : α → List Char} {view : α → β} {fit : α → Prop} {after : List Char → Prop}

theorem determines_of_read {ε : Type} (read : List Char → Except ε (β × List Char))
    (h : ∀ a, fit a → ∀ r, after r → read (text a ++ r) = .ok (view a, r)) :
    Determines text view fit after := by
  intro a b ha hb r s hr hs heq
  have hread : read (text b ++ s) = .ok (view a, r) := by
    rw [← heq]
    exact h a ha r hr
  rw [h b hb s hs, Except.ok.injEq, Prod.mk.injEq] at hread
  exact ⟨hread.1.symm, hread.2.symm⟩

theorem determines_span {p : Char → Bool} (htext : ∀ a, fit a → ∀ c ∈ text a, p c = true) :
    Determines text text fit (Stopped p) := by
  refine determines_of_read (ε := Unit) (fun cs => .ok (cs.takeWhile p, cs.dropWhile p)) ?_
  intro a ha r hr
  rw [takeWhile_append_of_stopped (htext a ha) hr, dropWhile_append_of_stopped (htext a ha) hr]

theorem Determines.of_view {view' : α → γ} (h : Determines text view fit after)
    (hview : ∀ ⦃a b⦄, fit a → fit b → view a = view b → view' a = view' b) :
    Determines text view' fit after := by
  intro a b ha hb r s hr hs heq
  obtain ⟨hab, hrs⟩ := h ha hb hr hs heq
  exact ⟨hview ha hb hab, hrs⟩

theorem Determines.before {after' : List Char → Prop} (h : Determines text view fit after)
    (hafter : ∀ r, after' r → after r) : Determines text view fit after' :=
  fun _ _ ha hb _ _ hr hs heq => h ha hb (hafter _ hr) (hafter _ hs) heq

theorem Determines.on {fit' : α → Prop} (h : Determines text view fit after)
    (hfit : ∀ a, fit' a → fit a) : Determines text view fit' after :=
  fun _ _ ha hb _ _ hr hs heq => h (hfit _ ha) (hfit _ hb) hr hs heq

/-! ## Rows of parts -/

theorem flatMap_separated (sep : List Char) (text : α → List Char) {as : List α} (hne : as ≠ []) :
    (as.flatMap fun a => sep ++ text a) = sep ++ sep.intercalate (as.map text) := by
  induction as with
  | nil => exact absurd rfl hne
  | cons a as ih =>
    cases as with
    | nil => rw [List.flatMap_singleton, List.map_singleton, List.intercalate_singleton]
    | cons b as =>
      rw [List.flatMap_cons, ih (List.cons_ne_nil b as)]
      simp only [List.map_cons, List.intercalate_cons_cons, List.append_assoc]

theorem prefix_intercalate (sep : List Char) (text : α → List Char) (a : α) (as : List α) :
    text a <+: sep.intercalate ((a :: as).map text) := by
  cases as with
  | nil => simp [List.intercalate_singleton]
  | cons b as =>
    rw [List.map_cons, List.map_cons, List.intercalate_cons_cons, List.append_assoc]
    exact List.prefix_append _ _

theorem Determines.behind (h : Determines text view fit after) {sep : List Char}
    (hsep : ∀ cs, after (sep ++ cs)) :
    Determines (fun as => as.flatMap fun a => sep ++ text a) (List.map view) (∀ a ∈ ·, fit a)
      (fun r => after r ∧ ¬ sep <+: r) := by
  -- behind every part there is another separator, or what follows the row
  have hbehind (as : List α) {r : List Char} (hr : after r) :
      after ((as.flatMap fun a => sep ++ text a) ++ r) := by
    cases as with
    | nil => exact hr
    | cons a as =>
      rw [List.flatMap_cons, List.append_assoc, List.append_assoc]
      exact hsep _
  intro as
  induction as with
  | nil =>
    intro bs _ _ r s hr _ heq
    cases bs with
    | nil => exact ⟨rfl, heq⟩
    | cons b bs =>
      simp only [List.flatMap_nil, List.nil_append, List.flatMap_cons, List.append_assoc] at heq
      exact absurd ⟨_, heq.symm⟩ hr.2
  | cons a as ih =>
    intro bs has hbs r s hr hs heq
    cases bs with
    | nil =>
      simp only [List.flatMap_nil, List.nil_append, List.flatMap_cons, List.append_assoc] at heq
      exact absurd ⟨_, heq⟩ hs.2
    | cons b bs =>
      rw [List.forall_mem_cons] at has hbs
      simp only [List.flatMap_cons, List.append_assoc] at heq
      have heq' := List.append_cancel_left heq
      obtain ⟨hab, hrest⟩ := h has.1 hbs.1 (hbehind as hr.1) (hbehind bs hs.1) heq'
      obtain ⟨hviews, hrs⟩ := ih has.2 hbs.2 hr hs hrest
      exact ⟨by rw [List.map_cons, List.map_cons, hab, hviews], hrs⟩

/-- **A row of parts with separators between them is determined as long as no separator follows
it.** A row has at least one part: an empty text would not tell that a row stands there. -/
theorem Determines.joined (h : Determines text view fit after) {sep : List Char}
    (hsep : ∀ cs, after (sep ++ cs)) :
    Determines (fun as => sep.intercalate (as.map text)) (List.map view)
      (fun as => as ≠ [] ∧ ∀ a ∈ as, fit a) (fun r => after r ∧ ¬ sep <+: r) := by
  intro as bs has hbs r s hr hs heq
  refine h.behind hsep has.2 hbs.2 hr hs ?_
  dsimp only at heq ⊢
  -- one more separator in front of both rows
  rw [flatMap_separated sep text has.1, flatMap_separated sep text hbs.1, List.append_assoc,
    List.append_assoc, heq]

/-! ## Parts that may be absent -/

/-- The text of a part, or nothing when the part is absent. -/
def whenPresent (present : α → Bool) (text : α → List Char) (a : α) : List Char :=
  if present a then text a else []

theorem Determines.whenPresent {present : α → Bool}
    (h : Determines text view (fun a => present a = true ∧ fit a) after)
    (habsent : ∀ ⦃a b⦄, present a = false → present b = false → view a = view b) :
    Determines (whenPresent present text) view fit
      (fun r => after r ∧ ∀ a, present a = true → fit a → ¬ text a <+: r) := by
  intro a b hfa hfb r s hr hs heq
  unfold Text.whenPresent at heq
  cases ha : present a with
  | true =>
    cases hb : present b with
    | true =>
      rw [if_pos ha, if_pos hb] at heq
      exact h ⟨ha, hfa⟩ ⟨hb, hfb⟩ hr.1 hs.1 heq
    | false =>
      rw [if_pos ha, if_neg (by simp [hb])] at heq
      exact absurd ⟨_, heq⟩ (hs.2 a ha hfa)
  | false =>
    cases hb : present b with
    | true =>
      rw [if_neg (by simp [ha]), if_pos hb] at heq
      exact absurd ⟨_, heq.symm⟩ (hr.2 b hb hfb)
    | false =>
      rw [if_neg (by simp [ha]), if_neg (by simp [hb])] at heq
      exact ⟨habsent ha hb, heq⟩

theorem Determines.led (h : Determines text view fit after) (lead : List Char) :
    Determines (fun a => lead ++ text a) view fit after := by
  intro a b ha hb r s hr hs heq
  rw [List.append_assoc, List.append_assoc] at heq
  exact h ha hb hr hs (List.append_cancel_left heq)

/-- A row with separators between its parts behind a lead, or nothing for the empty row. -/
def rowClause (lead sep : List Char) (text : α → List Char) : List α → List Char :=
  whenPresent (!·.isEmpty) fun as => lead ++ sep.intercalate (as.map text)

/-- The text of a part behind a lead, or nothing when there is no part. -/
def partClause (lead : List Char) (text : α → List Char) : Option α → List Char :=
  whenPresent Option.isSome fun o => lead ++ o.elim [] text

/-- **A clause of a row is determined as long as what follows begins neither with a separator nor as
the clause does, with the lead and a part.** -/
theorem Determines.rowClause (h : Determines text view fit after) (lead : List Char)
    {sep : List Char} (hsep : ∀ cs, after (sep ++ cs)) :
    Determines (rowClause lead sep text) (List.map view) (∀ a ∈ ·, fit a)
      (fun r => after r ∧ ¬ sep <+: r ∧ ∀ a, fit a → ¬ lead ++ text a <+: r) := by
  have hrow := (h.joined hsep).led lead
  refine ((hrow.on ?_).whenPresent ?_).before ?_
  · rintro as ⟨hne, has⟩
    exact ⟨by simpa using hne, has⟩
  · intro as bs has hbs
    simp only [Bool.not_eq_false', List.isEmpty_iff] at has hbs
    rw [has, hbs]
  · rintro r ⟨hr, hsep, hlead⟩
    refine ⟨⟨hr, hsep⟩, fun as hne has hpre => ?_⟩
    obtain ⟨a, as, rfl⟩ := List.exists_cons_of_ne_nil (by simpa using hne)
    have hfirst := (List.prefix_append_right_inj lead).2 (prefix_intercalate sep text a as)
    exact hlead a (has a List.mem_cons_self) (hfirst.trans hpre)

/-- **A clause of one part is determined as long as the lead does not follow it.** -/
theorem Determines.partClause (h : Determines text view fit after) (lead : List Char) :
    Determines (partClause lead text) (Option.map view) (∀ a ∈ ·, fit a)
      (fun r => after r ∧ ¬ lead <+: r) := by
  have hpart : Determines (fun o : Option α => o.elim [] text) (Option.map view)
      (fun o => o.isSome = true ∧ ∀ a ∈ o, fit a) after := by
    rintro _ _ ⟨ho, ha⟩ ⟨ho', hb⟩ r s hr hs heq
    obtain ⟨a, rfl⟩ := Option.isSome_iff_exists.1 ho
    obtain ⟨b, rfl⟩ := Option.isSome_iff_exists.1 ho'
    obtain ⟨hab, hrs⟩ := h (ha a rfl) (hb b rfl) hr hs heq
    exact ⟨congrArg some hab, hrs⟩
  refine ((hpart.led lead).whenPresent ?_).before ?_
  · intro o o' ho ho'
    rw [Option.isSome_eq_false_iff, Option.isNone_iff_eq_none] at ho ho'
    rw [ho, ho']
  · rintro r ⟨hr, hlead⟩
    exact ⟨hr, fun o _ _ hpre => hlead ((List.prefix_append _ _).trans hpre)⟩

end Determines

/-! ## Clauses that follow one another -/

/-- There is nothing, or it goes on with a blank and one of the words. -/
def GoesOn (words : List String) (rest : List Char) : Prop :=
  rest = [] ∨ ∃ w ∈ words, ' ' :: w.toList <+: rest

theorem goesOn_nil (words : List String) : GoesOn words [] := .inl rfl

section GoesOn

variable {words : List String} {rest : List Char}

theorem GoesOn.whenPresent (h : GoesOn words rest) (w : String) (present : α → Bool)
    (text : α → List Char) (a : α) :
    GoesOn (w :: words) (whenPresent present (fun a => ' ' :: w.toList ++ text a) a ++ rest) := by
  unfold Text.whenPresent
  split_ifs
  · rw [List.append_assoc]
    exact .inr ⟨w, List.mem_cons_self, List.prefix_append _ _⟩
  · rcases h with rfl | ⟨w', hmem, hw'⟩
    · exact .inl rfl
    · exact .inr ⟨w', List.mem_cons_of_mem w hmem, hw'⟩

theorem GoesOn.head (h : GoesOn words rest) : ∀ c ∈ rest.head?, c = ' ' := by
  rcases h with rfl | ⟨w, _, _, rfl⟩
  · rintro c ⟨⟩
  · rintro c ⟨⟩
    rfl

theorem GoesOn.stopped (h : GoesOn words rest) {p : Char → Bool} (hp : p ' ' = false) :
    Stopped p rest := by
  intro c hc
  rw [h.head c hc]
  exact hp

theorem GoesOn.not_prefix (h : GoesOn words rest) {w : String}
    (hw : ∀ w' ∈ words, ¬ w.toList <+: w'.toList ∧ ¬ w'.toList <+: w.toList) :
    ¬ ' ' :: w.toList <+: rest := by
  intro hpre
  rcases h with rfl | ⟨w', hmem, hw'⟩
  · exact absurd (List.prefix_nil.1 hpre) (List.cons_ne_nil _ _)
  · rcases List.prefix_or_prefix_of_prefix hpre hw' with hle | hle
    · exact (hw w' hmem).1 (List.cons_prefix_cons.1 hle).2
    · exact (hw w' hmem).2 (List.cons_prefix_cons.1 hle).2

end GoesOn

end FindSelect.Text
