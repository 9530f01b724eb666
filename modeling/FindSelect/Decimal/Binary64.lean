/-!
# Finite binary64 numbers

A number of the 64-bit binary floating-point format is kept as its sign, significand and exponent,
so that every operation on it is exact arithmetic on whole numbers.

* `Binary64`: the finite numbers of the format, each in its one canonical form;
* `Binary64.ofRatio`, `Binary64.ofDecimal`: the nearest number, ties to the even significand, or
  none when the value lies beyond the largest one.
-/

namespace FindSelect

/-- The canonical forms of the format: the significand is as long as 53 bits and the least
exponent allow. -/
def IsCanonical (significand : Nat) (exponent : Int) : Prop :=
  significand < 0x20000000000000 ∧ -1074 ≤ exponent ∧ exponent ≤ 971 ∧
    (exponent = -1074 ∨ 0x10000000000000 ≤ significand)

instance (significand : Nat) (exponent : Int) : Decidable (IsCanonical significand exponent) := by
  unfold IsCanonical; infer_instance

/-- The finite number `± significand · 2 ^ exponent`. Zero has both signs. -/
structure Binary64 where
  negative : Bool
  significand : Nat
  exponent : Int
  canonical : IsCanonical significand exponent
  deriving DecidableEq, Repr

namespace Binary64

/-- Zero, with either sign. -/
def zero (negative : Bool) : Binary64 := ⟨negative, 0, -1074, by decide⟩

/-- The number of the given parts, if they are canonical. -/
def ofParts? (negative : Bool) (significand : Nat) (exponent : Int) : Option Binary64 :=
  if h : IsCanonical significand exponent then some ⟨negative, significand, exponent, h⟩ else none

/-- Whether this is one of the two zeros. -/
def isZero (x : Binary64) : Bool := x.significand == 0

/-- Equality of value: the two zeros are equal. -/
def sameValue (x y : Binary64) : Bool := x == y || x.isZero && y.isZero

/-! ## Rounding -/

/-- The whole number nearest to `n / d`; of two equally near, the even one. -/
def roundRatio (n d : Nat) : Nat :=
  let q := n / d
  let twice := 2 * (n % d)
  if twice < d ∨ twice = d ∧ q % 2 = 0 then q else q + 1

/-- The greatest `k` with `2 ^ k ≤ n / d`, for positive `n` and `d`. -/
def floorLog2 (n d : Nat) : Int :=
  let k : Int := (n.log2 : Int) - d.log2
  if d * Nat.pow 2 k.toNat ≤ n * Nat.pow 2 (-k).toNat then k else k - 1

/-- The number nearest to `n / d`, or none when it is too large. -/
def ofRatio (negative : Bool) (n d : Nat) : Option Binary64 :=
  if n = 0 then some (zero negative)
  else
    let e := max (floorLog2 n d - 52) (-1074)
    let m := roundRatio (n * Nat.pow 2 (-e).toNat) (d * Nat.pow 2 e.toNat)
    if m = 0x20000000000000 then ofParts? negative 0x10000000000000 (e + 1)
    else ofParts? negative m e

/-- The number nearest to `digits · 10 ^ scale`, or none when it is too large.

The two comparisons of magnitude decide the values that are far out of range without raising ten to
a large power: every finite number lies below `10 ^ 309`, and half the least positive one above
`10 ^ (-324)`. -/
def ofDecimal (negative : Bool) (digits : Nat) (scale : Int) : Option Binary64 :=
  let magnitude : Int := (Nat.toDigits 10 digits).length + scale
  if digits = 0 then some (zero negative)
  else if 310 < magnitude then none
  else if magnitude < -330 then some (zero negative)
  else ofRatio negative (digits * Nat.pow 10 scale.toNat) (Nat.pow 10 (-scale).toNat)

/-- The number nearest to a whole number. -/
def ofInt (i : Int) : Option Binary64 := ofRatio (decide (i < 0)) i.natAbs 1

end Binary64

end FindSelect
