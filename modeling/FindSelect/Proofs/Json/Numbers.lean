import FindSelect.Proofs.Decimal.Digits
import FindSelect.Proofs.Json.Scalars

/-!
# Reading numbers back

The text of a number is a sign, a row of digits, and perhaps a fraction and an exponent. A reader
finds these parts again as long as what follows cannot be taken for more of the number. So whatever
number it reads there, it stops at the end of the text.

* `DigitRow`, `WholeRow`, `Numeral.Proper`: the parts of a written number;
* `Numeral.chars`, `numeral_chars`: the text of these parts, and that they are read back from it;
* `exists_numeral`: every number is written in this way;
* `number_intChars`: an integer is read back;
* **`exists_number_chars`**: a number is read to the end of its text.
-/

namespace FindSelect.Reader

open Text

/-! ## Rows of digits -/

/-- One digit or more. -/
structure DigitRow (ds : List Char) : Prop where
  ne_nil : ds ≠ []
  isDigit : ∀ c ∈ ds, c.isDigit = true

/-- Digits that may stand before the point: the first is zero only when it is the only one. -/
structure WholeRow (ds : List Char) : Prop extends DigitRow ds where
  leading : ds = ['0'] ∨ ∀ c ∈ ds.head?, c ≠ '0'

theorem DigitRow.head {ds : List Char} (h : DigitRow ds) :
    ∃ c cs, ds = c :: cs ∧ c.isDigit = true := by
  obtain ⟨c, cs, rfl⟩ := List.exists_cons_of_ne_nil h.ne_nil
  exact ⟨c, cs, rfl, h.isDigit c List.mem_cons_self⟩

theorem digitRow_cons {c : Char} {cs : List Char} (hc : c.isDigit = true)
    (hcs : ∀ d ∈ cs, d.isDigit = true) : DigitRow (c :: cs) :=
  ⟨List.cons_ne_nil c cs, List.forall_mem_cons.2 ⟨hc, hcs⟩⟩

theorem digitRow_toDigits (n : Nat) : DigitRow (Nat.toDigits 10 n) :=
  ⟨Nat.toDigits_ne_nil, fun _ hc => Nat.isDigit_of_mem_toDigits (by decide) (by decide) hc⟩

theorem wholeRow_zero : WholeRow ['0'] where
  toDigitRow := digitRow_cons rfl (List.forall_mem_nil _)
  leading := .inl rfl

theorem wholeRow_toDigits (n : Nat) : WholeRow (Nat.toDigits 10 n) := by
  refine ⟨digitRow_toDigits n, ?_⟩
  rcases Nat.eq_zero_or_pos n with rfl | hn
  · exact .inl (Nat.toDigits_zero 10)
  · obtain ⟨c, cs, hcs, hc⟩ := head_toDigits_ne_zero hn
    rw [hcs]
    refine .inr ?_
    rintro d ⟨⟩
    exact hc

section Rows

variable {ds rest : List Char}

theorem digits_append (hds : DigitRow ds) (hrest : Stopped Char.isDigit rest) (atEnd : Fault) :
    digits atEnd (ds ++ rest) = .ok (ds, rest) := by
  have htake := takeWhile_append_of_stopped hds.isDigit hrest
  have hdrop := dropWhile_append_of_stopped hds.isDigit hrest
  obtain ⟨c, cs, rfl, hc⟩ := hds.head
  rw [List.cons_append] at htake hdrop ⊢
  rw [digits, if_pos hc, htake, hdrop]

theorem wholeDigits_of_ne_zero {c : Char} (hc : c ≠ '0') (cs : List Char) (atEnd : Fault) :
    wholeDigits atEnd (c :: cs) = digits atEnd (c :: cs) := by
  unfold wholeDigits
  split
  next heq => cases heq; exact absurd rfl hc
  next heq => cases heq; exact absurd rfl hc
  next => rfl

theorem wholeDigits_append (hds : WholeRow ds) (hrest : Stopped Char.isDigit rest)
    (atEnd : Fault) : wholeDigits atEnd (ds ++ rest) = .ok (ds, rest) := by
  rcases hds.leading with rfl | hzero
  · cases rest with
    | nil => rfl
    | cons c cs =>
      have hc : c.isDigit = false := hrest c rfl
      simp only [List.cons_append, List.nil_append, wholeDigits, hc]
      rfl
  · have hread := digits_append hds.toDigitRow hrest atEnd
    obtain ⟨c, cs, rfl, -⟩ := hds.head
    rw [List.cons_append] at hread ⊢
    rw [wholeDigits_of_ne_zero (hzero c rfl), hread]

end Rows

/-! ## The parts of a number -/

/-- The text of a sign. -/
def signChars (negative : Bool) : List Char := if negative then ['-'] else []

/-- The text of a fraction, if there is one. -/
def fractionChars : Option (List Char) → List Char
  | none => []
  | some ds => '.' :: ds

/-- The text of an exponent, if there is one. Its sign is written in any case. -/
def exponentChars : Option (Bool × List Char) → List Char
  | none => []
  | some (negative, ds) => 'e' :: (if negative then '-' else '+') :: ds

/-- The text of the parts of a number. -/
def Numeral.chars (n : Numeral) : List Char :=
  signChars n.negative ++ (n.whole ++ (fractionChars n.fraction ++ exponentChars n.exponent))

/-- The parts are such as may be written. -/
structure Numeral.Proper (n : Numeral) : Prop where
  whole : WholeRow n.whole
  fraction : ∀ ds ∈ n.fraction, DigitRow ds
  exponent : ∀ e ∈ n.exponent, DigitRow e.2

theorem minus_digit {c : Char} (hc : c.isDigit = true) (cs : List Char) :
    minus (c :: cs) = .ok (false, c :: cs) := by
  unfold minus
  split
  next heq => cases heq; exact absurd hc (by decide)
  next => rfl

theorem minus_signChars (negative : Bool) {ds : List Char} (hds : DigitRow ds)
    (rest : List Char) : minus (signChars negative ++ (ds ++ rest)) = .ok (negative, ds ++ rest) := by
  cases negative with
  | true => rfl
  | false =>
    obtain ⟨c, cs, rfl, hc⟩ := hds.head
    exact minus_digit hc (cs ++ rest)

theorem Ended.stopped {rest : List Char} (h : Ended rest) {p : Char → Bool}
    (hp : ∀ c, c.isDigit = false → c ≠ '.' → c ≠ 'e' → c ≠ 'E' → p c = false) :
    Stopped p rest := by
  rcases h.head_cases with rfl | ⟨c, cs, rfl, hdigit, hpoint, he, hE⟩
  · exact stopped_nil p
  · exact stopped_cons (hp c hdigit hpoint he hE) cs

theorem stopped_exponentChars {p : Char → Bool} (hp : p 'e' = false) {rest : List Char}
    (hrest : Stopped p rest) (exponent : Option (Bool × List Char)) :
    Stopped p (exponentChars exponent ++ rest) := by
  cases exponent with
  | none => exact hrest
  | some e => exact stopped_cons hp _

theorem stopped_fractionChars {p : Char → Bool} (hp : p '.' = false) {rest : List Char}
    (hrest : Stopped p rest) (fraction : Option (List Char)) :
    Stopped p (fractionChars fraction ++ rest) := by
  cases fraction with
  | none => exact hrest
  | some ds => exact stopped_cons hp _

theorem fractionPart_fractionChars {fraction : Option (List Char)}
    (hfraction : ∀ ds ∈ fraction, DigitRow ds) {rest : List Char}
    (hdigit : Stopped Char.isDigit rest) (hpoint : Stopped (· == '.') rest) (atEnd : Fault) :
    fractionPart atEnd (fractionChars fraction ++ rest) = .ok (fraction, rest) := by
  cases fraction with
  | some ds => exact map_ok (digits_append (hfraction ds rfl) hdigit atEnd)
  | none =>
    rw [fractionChars, List.nil_append]
    unfold fractionPart
    split
    next heq =>
      have := hpoint '.' rfl
      cases this
    next => rfl

theorem exponentPart_exponentChars {exponent : Option (Bool × List Char)}
    (hexponent : ∀ e ∈ exponent, DigitRow e.2) {rest : List Char} (hrest : Ended rest)
    (atEnd : Fault) :
    exponentPart atEnd (exponentChars exponent ++ rest) = .ok (exponent, rest) := by
  cases exponent with
  | some e =>
    obtain ⟨negative, ds⟩ := e
    have hsign : exponentSign ((if negative then '-' else '+') :: (ds ++ rest)) =
        .ok (negative, ds ++ rest) := by
      cases negative <;> rfl
    have hdigits := digits_append (hexponent _ rfl) (hrest.stopped fun c hc _ _ _ => hc) atEnd
    simp only [exponentChars, List.cons_append, exponentPart, true_or, if_true]
    rw [bind_ok hsign, bind_ok hdigits]
    rfl
  | none =>
    rw [exponentChars, List.nil_append]
    rcases hrest.head_cases with rfl | ⟨c, cs, rfl, -, -, he, hE⟩
    · rfl
    · rw [exponentPart]
      exact if_neg (not_or.2 ⟨he, hE⟩)

theorem numeral_chars {n : Numeral} (hn : n.Proper) {rest : List Char} (hrest : Ended rest)
    (atEnd : Fault) : numeral atEnd (n.chars ++ rest) = .ok (n, rest) := by
  -- neither a digit nor a point goes on with a part behind its end
  have hdigit := stopped_exponentChars (p := Char.isDigit) rfl
    (hrest.stopped fun c hc _ _ _ => hc) n.exponent
  have hpoint := stopped_exponentChars (p := (· == '.')) rfl
    (hrest.stopped fun c _ hc _ _ => beq_eq_false_iff_ne.2 hc) n.exponent
  have hfraction := fractionPart_fractionChars hn.fraction hdigit hpoint atEnd
  have hwhole := wholeDigits_append hn.whole (stopped_fractionChars rfl hdigit n.fraction) atEnd
  have hminus := minus_signChars n.negative hn.whole.toDigitRow
    (fractionChars n.fraction ++ (exponentChars n.exponent ++ rest))
  simp only [Numeral.chars, List.append_assoc]
  rw [numeral, bind_ok hminus, bind_ok hwhole, bind_ok hfraction,
    bind_ok (exponentPart_exponentChars hn.exponent hrest atEnd)]
  rfl

/-! ## Integers -/

/-- The parts of a whole number. -/
def intNumeral (i : Int) : Numeral := ⟨decide (i < 0), Nat.toDigits 10 i.natAbs, none, none⟩

theorem proper_intNumeral (i : Int) : (intNumeral i).Proper where
  whole := wholeRow_toDigits i.natAbs
  fraction := nofun
  exponent := nofun

theorem chars_intNumeral (i : Int) : (intNumeral i).chars = intChars i := by
  by_cases hi : i < 0
  · simp [Numeral.chars, intNumeral, intChars, signChars, fractionChars, exponentChars, hi]
  · simp [Numeral.chars, intNumeral, intChars, signChars, fractionChars, exponentChars, hi]

theorem ofInt?_val (i : WideInt) : WideInt.ofInt? i.val = some i := by
  rw [WideInt.ofInt?, dif_pos ⟨i.lower, i.upper⟩]

theorem le_ofDigitChars (ds : List Char) (n : Nat) : n ≤ Nat.ofDigitChars 10 ds n := by
  induction ds generalizing n with
  | nil => exact Nat.le_refl n
  | cons c ds ih =>
    rw [Nat.ofDigitChars_cons]
    have := ih (10 * n + (c.toNat - '0'.toNat))
    omega

/-- A significand takes all digits of a number that it can hold. -/
theorem takeDigits_eq_ofDigitChars {ds : List Char} {n : Nat}
    (h : Nat.ofDigitChars 10 ds n ≤ maxSignificand) :
    takeDigits n ds = (Nat.ofDigitChars 10 ds n, []) := by
  induction ds generalizing n with
  | nil => rfl
  | cons c ds ih =>
    rw [Nat.ofDigitChars_cons] at h ⊢
    have hbound := Nat.le_trans (le_ofDigitChars ds (10 * n + (c.toNat - '0'.toNat))) h
    unfold takeDigits
    dsimp only
    rw [if_pos hbound, ih h]

theorem value?_intNumeral (i : WideInt) : (intNumeral i.val).value? = some (.integer i) := by
  have hmagnitude : Nat.ofDigitChars 10 (Nat.toDigits 10 i.val.natAbs) 0 = i.val.natAbs :=
    Nat.ofDigitChars_ten_toDigits
  have hbound : i.val.natAbs ≤ maxSignificand := by
    have hlower := i.lower
    have hupper := i.upper
    unfold maxSignificand
    omega
  have htaken : takeDigits 0 (Nat.toDigits 10 i.val.natAbs) = (i.val.natAbs, []) := by
    rw [takeDigits_eq_ofDigitChars (hmagnitude.symm ▸ hbound), hmagnitude]
  -- zero is the only integer of which a sign would be lost
  have hsign : (decide (i.val < 0) && i.val.natAbs == 0) = false := by
    rw [Bool.and_eq_false_iff, decide_eq_false_iff_not, beq_eq_false_iff_ne]
    omega
  have hsigned : (if decide (i.val < 0) = true then -(i.val.natAbs : Int) else i.val.natAbs) =
      i.val := by
    split_ifs with hi
    · rw [decide_eq_true_eq] at hi
      omega
    · rw [decide_eq_true_eq] at hi
      omega
  simp only [intNumeral, Numeral.value?, htaken, hsign, hsigned, ofInt?_val]

theorem number_intChars (i : WideInt) {rest : List Char} (hrest : Ended rest) :
    number (intChars i.val ++ rest) = .ok (.integer i, rest) := by
  have hread := numeral_chars (proper_intNumeral i.val) hrest .incomplete
  rw [chars_intNumeral] at hread
  rw [number, bind_ok hread, value?_intNumeral]
  rfl

/-! ## Floating-point numbers -/

theorem exists_numeral_positional {ds : List Char} (hds : DigitRow ds)
    (hzero : ∀ c ∈ ds.head?, c ≠ '0') (e : Int) :
    ∃ n : Numeral, n.Proper ∧ n.negative = false ∧ n.chars = positional ds e := by
  have hzeros : ∀ k, ∀ c ∈ List.replicate k '0', c.isDigit = true := by
    intro k c hc
    rw [List.eq_of_mem_replicate hc]
    rfl
  unfold positional
  -- the leading digit stands behind the point or before it
  by_cases he : e < 0
  · refine ⟨⟨false, ['0'], some (List.replicate (-e - 1).toNat '0' ++ ds), none⟩,
      ⟨wholeRow_zero, ?_, nofun⟩, rfl, ?_⟩
    · rintro _ ⟨⟩
      refine ⟨List.append_ne_nil_of_right_ne_nil _ hds.ne_nil, ?_⟩
      exact List.forall_mem_append.2 ⟨hzeros _, hds.isDigit⟩
    · simp [Numeral.chars, signChars, fractionChars, exponentChars, he]
  · obtain ⟨c, cs, rfl, hc⟩ := hds.head
    have hwhole : WholeRow ((c :: cs).take (e.toNat + 1) ++
        List.replicate (e.toNat + 1 - ((c :: cs).take (e.toNat + 1)).length) '0') := by
      refine ⟨digitRow_cons hc ?_, .inr ?_⟩
      · refine List.forall_mem_append.2 ⟨fun d hd => ?_, hzeros _⟩
        exact hds.isDigit d (List.mem_cons_of_mem c (List.mem_of_mem_take hd))
      · rintro d ⟨⟩
        exact hzero c rfl
    refine ⟨⟨false, _, some (if ((c :: cs).drop (e.toNat + 1)).isEmpty then ['0'] else
      (c :: cs).drop (e.toNat + 1)), none⟩, ⟨hwhole, ?_, nofun⟩, rfl, ?_⟩
    · rintro _ ⟨⟩
      split_ifs with hempty
      · exact wholeRow_zero.toDigitRow
      · refine ⟨by simpa using hempty, fun d hd => hds.isDigit d (List.mem_of_mem_drop hd)⟩
    · rw [if_neg he]
      simp [Numeral.chars, signChars, fractionChars, exponentChars]

theorem exists_numeral_scientific {ds : List Char} (hds : DigitRow ds)
    (hzero : ∀ c ∈ ds.head?, c ≠ '0') (e : Int) :
    ∃ n : Numeral, n.Proper ∧ n.negative = false ∧ n.chars = scientific ds e := by
  obtain ⟨c, cs, rfl, hc⟩ := hds.head
  have hwhole : WholeRow [c] := by
    refine ⟨digitRow_cons hc (List.forall_mem_nil _), .inr ?_⟩
    rintro d ⟨⟩
    exact hzero c rfl
  have hexponent : ∀ p ∈ some (decide (e < 0), Nat.toDigits 10 e.natAbs), DigitRow p.2 := by
    rintro _ ⟨⟩
    exact digitRow_toDigits e.natAbs
  -- there is no point when there is only one digit
  cases cs with
  | nil =>
    refine ⟨⟨false, [c], none, _⟩, ⟨hwhole, nofun, hexponent⟩, rfl, ?_⟩
    simp [Numeral.chars, signChars, fractionChars, exponentChars, scientific]
  | cons d cs =>
    refine ⟨⟨false, [c], some (d :: cs), _⟩, ⟨hwhole, ?_, hexponent⟩, rfl, ?_⟩
    · rintro _ ⟨⟩
      exact ⟨List.cons_ne_nil d cs, fun x hx => hds.isDigit x (List.mem_cons_of_mem c hx)⟩
    · simp [Numeral.chars, signChars, fractionChars, exponentChars, scientific]

theorem exists_numeral_signed {cs : List Char}
    (h : ∃ n : Numeral, n.Proper ∧ n.negative = false ∧ n.chars = cs) (negative : Bool) :
    ∃ n : Numeral, n.Proper ∧ n.chars = if negative then '-' :: cs else cs := by
  obtain ⟨n, hn, hsign, rfl⟩ := h
  refine ⟨{ n with negative }, ⟨hn.whole, hn.fraction, hn.exponent⟩, ?_⟩
  cases negative <;> simp [Numeral.chars, signChars, hsign]

theorem exists_numeral (m : Number) : ∃ n : Numeral, n.Proper ∧ n.chars = m.chars := by
  cases m with
  | integer i => exact ⟨intNumeral i.val, proper_intNumeral i.val, chars_intNumeral i.val⟩
  | real x =>
    refine exists_numeral_signed ?_ x.negative
    by_cases hx : x.isZero = true
    · rw [if_pos hx]
      exact ⟨⟨false, ['0'], some ['0'], none⟩,
        ⟨wholeRow_zero, by rintro _ ⟨⟩; exact wholeRow_zero.toDigitRow, nofun⟩, rfl, rfl⟩
    · rw [if_neg hx]
      have hpos := Binary64.shortest_digits_pos (Bool.eq_false_iff.2 hx)
      obtain ⟨c, cs, hcs, hc⟩ := Decimal.exists_significant hpos
      have hds : DigitRow x.shortest.significant :=
        ⟨by simp [hcs], fun _ hd => Decimal.isDigit_of_mem_significant hd⟩
      have hzero : ∀ d ∈ x.shortest.significant.head?, d ≠ '0' := by
        rw [hcs]
        rintro d ⟨⟩
        exact hc
      dsimp only
      split_ifs
      · exact exists_numeral_positional hds hzero _
      · exact exists_numeral_scientific hds hzero _

/-! ## Texts of numbers -/

theorem numberChars_head (m : Number) :
    ∃ c cs, m.chars = c :: cs ∧ startsNumber c = true := by
  obtain ⟨n, hn, hchars⟩ := exists_numeral m
  rw [← hchars, Numeral.chars]
  cases n.negative with
  | true => exact ⟨'-', _, rfl, rfl⟩
  | false =>
    obtain ⟨c, cs, hcs, hc⟩ := hn.whole.head
    rw [hcs]
    exact ⟨c, _, rfl, by rw [startsNumber, hc, Bool.or_true]⟩

/-- **Whatever is read from the text of a number, the reader stops at the end of the text.** A number
with a point may come back as another one, or be too large. -/
theorem exists_number_chars (m : Number) :
    ∃ outcome : Except Fault Number, ∀ rest, Ended rest →
      number (m.chars ++ rest) = outcome.map (·, rest) := by
  obtain ⟨n, hn, hchars⟩ := exists_numeral m
  refine ⟨n.value?.elim (.error .malformed) .ok, fun rest hrest => ?_⟩
  rw [← hchars, number, bind_ok (numeral_chars hn hrest .incomplete)]
  cases n.value? with
  | none => rfl
  | some v => rfl

theorem ne_of_startsNumber {c d : Char} (hc : startsNumber c = true)
    (hd : startsNumber d = false) : c ≠ d := by
  rintro rfl
  rw [hc] at hd
  cases hd

theorem isBlank_of_startsNumber {c : Char} (hc : startsNumber c = true) : isBlank c = false := by
  simp only [isBlank, Bool.or_eq_false_iff, beq_eq_false_iff_ne]
  refine ⟨⟨⟨?_, ?_⟩, ?_⟩, ?_⟩ <;> exact ne_of_startsNumber hc rfl

end FindSelect.Reader
