import FindSelect.Decimal.Shortest
import Mathlib.Algebra.Group.Nat.Defs
import Mathlib.Tactic.Common

/-!
# Digits of decimals

The digits of a positive whole number do not begin with zero. The shortest decimal of a number other
than zero is a positive multiple of a power of ten, so the same holds of its digits.

* `head_toDigits_ne_zero`, `pow_le_of_length_toDigits`: the digits of a whole number;
* `RoundingInterval.digits_pos_of_nearestAt?`: a decimal in the interval of a positive number;
* `RoundingInterval.floorAt_leading_pos`: seventeen digits of a positive number;
* **`Binary64.shortest_digits_pos`**: the shortest decimal;
* `Decimal.isDigit_of_mem_significant`, `Decimal.exists_significant`: its digits without the zeros at
  their end.
-/

namespace FindSelect

/-! ## Digits of whole numbers -/

theorem head_toDigits_ne_zero {n : Nat} (hn : 0 < n) :
    ∃ c cs, Nat.toDigits 10 n = c :: cs ∧ c ≠ '0' := by
  induction n using Nat.strongRecOn with
  | ind n ih =>
    by_cases h : n < 10
    · have hdigit : ∀ m < 10, 0 < m → m.digitChar ≠ '0' := by decide
      exact ⟨n.digitChar, [], Nat.toDigits_of_lt_base h, hdigit n h hn⟩
    · obtain ⟨c, cs, hcs, hc⟩ := ih (n / 10) (by omega) (by omega)
      refine ⟨c, cs ++ [(n % 10).digitChar], ?_, hc⟩
      rw [Nat.toDigits_of_base_le (by decide) (by omega), hcs]
      rfl

theorem pow_le_of_length_toDigits {n k : Nat} (hn : 0 < n)
    (hk : (Nat.toDigits 10 n).length = k + 1) : 10 ^ k ≤ n := by
  rcases Nat.eq_zero_or_pos k with rfl | hpos
  · exact hn
  · have := Nat.length_toDigits_le_iff (b := 10) (n := n) (by decide) hpos
    omega

theorem two_pow_le_ten_pow {n k : Nat} (h : n ≤ 3 * k) : 2 ^ n ≤ 10 ^ k := by
  calc 2 ^ n ≤ 2 ^ (3 * k) := Nat.pow_le_pow_right (by decide) h
    _ = (2 ^ 3) ^ k := Nat.pow_mul 2 3 k
    _ ≤ 10 ^ k := Nat.pow_le_pow_left (by decide) k

/-! ## Intervals of positive numbers -/

namespace RoundingInterval

variable {i : RoundingInterval}

theorem contains_zero (hlow : 0 < i.low) (s : Int) : i.contains 0 s = false := by
  have hpos : 0 < i.low * 2 ^ i.unit.toNat * 10 ^ (-s).toNat :=
    Nat.mul_pos (Nat.mul_pos hlow (Nat.pow_pos (by decide))) (Nat.pow_pos (by decide))
  unfold contains common
  simp only [Nat.zero_mul, Nat.pow_eq]
  split
  · simp only [Bool.and_eq_false_iff, decide_eq_false_iff_not]
    exact .inl (by omega)
  · simp only [Bool.and_eq_false_iff, decide_eq_false_iff_not]
    exact .inl (by omega)

theorem digits_pos_of_nearestAt? (hlow : 0 < i.low) {s : Int} {d : Decimal}
    (h : i.nearestAt? s = some d) : 0 < d.digits := by
  have hbelow : i.contains (i.floorAt s) s = true → 0 < i.floorAt s := by
    intro hcontains
    by_contra hzero
    rw [Nat.eq_zero_of_not_pos hzero, contains_zero hlow] at hcontains
    cases hcontains
  unfold nearestAt? at h
  dsimp only at h
  split at h
  next => cases h
  next hb _ => cases h; exact hbelow hb
  next => cases h; exact Nat.succ_pos _
  next hb _ =>
    split at h
    · cases h; exact hbelow hb
    · cases h; exact Nat.succ_pos _

theorem le_floorAt_iff {c : Nat} {s : Int} :
    c ≤ i.floorAt s ↔ c * (10 ^ s.toNat * 2 ^ (-i.unit).toNat) ≤
      i.mid * 2 ^ i.unit.toNat * 10 ^ (-s).toNat := by
  have hpos : 0 < 10 ^ s.toNat * 2 ^ (-i.unit).toNat :=
    Nat.mul_pos (Nat.pow_pos (by decide)) (Nat.pow_pos (by decide))
  unfold floorAt
  simp only [Nat.pow_eq]
  exact Nat.le_div_iff_mul_le hpos

theorem floorAt_pos_of_pow_le {k m : Nat} (h : 10 ^ k ≤ i.floorAt (-m)) (j : Nat) :
    0 < i.floorAt (k - m - j) := by
  have hfloor := le_floorAt_iff.1 h
  have hzero : (-(m : Int)).toNat = 0 := by omega
  have hm : (-(-(m : Int))).toNat = m := by omega
  rw [hzero, hm, Nat.pow_zero, Nat.one_mul] at hfloor
  rw [Nat.lt_iff_add_one_le, Nat.zero_add, le_floorAt_iff, Nat.one_mul]
  generalize i.mid * 2 ^ i.unit.toNat = n at hfloor ⊢
  generalize 2 ^ (-i.unit).toNat = d at hfloor ⊢
  have hpow : ∀ l : Nat, 0 < 10 ^ l := fun l => Nat.pow_pos (by decide)
  -- the place stands before the point or behind it
  by_cases hkm : m ≤ k
  · have hd : 10 ^ (k - m) * d ≤ n := by
      apply Nat.le_of_mul_le_mul_right _ (hpow m)
      calc 10 ^ (k - m) * d * 10 ^ m = 10 ^ (k - m + m) * d := by
            rw [Nat.mul_right_comm, ← Nat.pow_add]
        _ ≤ n * 10 ^ m := by rwa [Nat.sub_add_cancel hkm]
    calc 10 ^ ((k : Int) - m - j).toNat * d ≤ 10 ^ (k - m) * d :=
          Nat.mul_le_mul_right d (Nat.pow_le_pow_right (by decide) (by omega))
      _ ≤ n := hd
      _ ≤ n * 10 ^ (-((k : Int) - m - j)).toNat := Nat.le_mul_of_pos_right n (hpow _)
  · have hd : d ≤ n * 10 ^ (m - k) := by
      apply Nat.le_of_mul_le_mul_left _ (hpow k)
      calc 10 ^ k * d ≤ n * 10 ^ (m - k + k) := by rwa [Nat.sub_add_cancel (by omega)]
        _ = 10 ^ k * (n * 10 ^ (m - k)) := by
            rw [Nat.pow_add, Nat.mul_comm (10 ^ k), Nat.mul_assoc]
    have hbehind : ((k : Int) - m - j).toNat = 0 := by omega
    rw [hbehind, Nat.pow_zero, Nat.one_mul]
    exact Nat.le_trans hd (Nat.mul_le_mul_left n (Nat.pow_le_pow_right (by decide) (by omega)))

theorem floorAt_leading_pos (h : 0 < i.floorAt (-400)) : 0 < i.floorAt (i.leading - 16) := by
  have hlength := Nat.length_toDigits_pos (b := 10) (n := i.floorAt (-400))
  obtain ⟨k, hk⟩ : ∃ k, (Nat.toDigits 10 (i.floorAt (-400))).length = k + 1 :=
    ⟨(Nat.toDigits 10 (i.floorAt (-400))).length - 1, by omega⟩
  have hleading : i.leading - 16 = (k : Int) - (400 : Nat) - (16 : Nat) := by
    rw [leading, hk]
    omega
  rw [hleading]
  exact floorAt_pos_of_pow_le (pow_le_of_length_toDigits h hk) 16

end RoundingInterval

/-! ## Numbers other than zero -/

namespace Binary64

variable {x : Binary64}

theorem interval_low_pos (hx : x.isZero = false) : 0 < x.interval.low := by
  have : x.significand ≠ 0 := by simpa [isZero] using hx
  unfold interval
  dsimp only
  split_ifs <;> omega

/-- No number but zero is smaller than `10 ^ (-400)`. -/
theorem interval_floorAt_pos (hx : x.isZero = false) : 0 < x.interval.floorAt (-400) := by
  have hsignificand : x.significand ≠ 0 := by simpa [isZero] using hx
  have hexponent := x.canonical.2.1
  have hmid : 0 < x.interval.mid := by
    unfold interval
    dsimp only
    omega
  have hunit : (-x.interval.unit).toNat ≤ 3 * 400 := by
    unfold interval
    dsimp only
    omega
  rw [Nat.lt_iff_add_one_le, Nat.zero_add, RoundingInterval.le_floorAt_iff, Nat.one_mul]
  calc 10 ^ (-400 : Int).toNat * 2 ^ (-x.interval.unit).toNat
      = 2 ^ (-x.interval.unit).toNat := Nat.one_mul _
    _ ≤ 10 ^ (-(-400) : Int).toNat := two_pow_le_ten_pow hunit
    _ ≤ x.interval.mid * 2 ^ x.interval.unit.toNat * 10 ^ (-(-400) : Int).toNat :=
        Nat.le_mul_of_pos_left _ (Nat.mul_pos hmid (Nat.pow_pos (by decide)))

/-- **The shortest decimal of a number other than zero is not zero.** -/
theorem shortest_digits_pos (hx : x.isZero = false) : 0 < x.shortest.digits := by
  unfold shortest
  dsimp only
  generalize hfound : List.findSome? x.interval.nearestAt? _ = found
  cases found with
  | some d =>
    obtain ⟨s, -, hs⟩ := List.exists_of_findSome?_eq_some hfound
    exact RoundingInterval.digits_pos_of_nearestAt? (interval_low_pos hx) hs
  | none => exact RoundingInterval.floorAt_leading_pos (interval_floorAt_pos hx)

end Binary64

/-! ## Digits without the zeros at their end -/

namespace Decimal

theorem isDigit_of_mem_significant {d : Decimal} {c : Char} (h : c ∈ d.significant) :
    c.isDigit = true := by
  unfold significant at h
  rw [List.mem_reverse] at h
  have hmem := List.mem_reverse.1 ((List.dropWhile_sublist _).subset h)
  exact Nat.isDigit_of_mem_toDigits (by decide) (by decide) hmem

theorem exists_significant {d : Decimal} (hd : 0 < d.digits) :
    ∃ c cs, d.significant = c :: cs ∧ c ≠ '0' := by
  obtain ⟨c, cs, hcs, hc⟩ := head_toDigits_ne_zero hd
  have hfirst : [c].dropWhile (· == '0') = [c] := List.dropWhile_cons_of_neg (by simpa using hc)
  refine ⟨c, (cs.reverse.dropWhile (· == '0')).reverse, ?_, hc⟩
  unfold significant
  rw [hcs, List.reverse_cons, List.dropWhile_append, hfirst]
  split_ifs with hzeros
  · rw [List.isEmpty_iff.1 hzeros]
    rfl
  · rw [List.reverse_append]
    rfl

end Decimal

end FindSelect
