import FindSelect.Decimal.Binary64

/-!
# Scaling by powers of ten

A number times a power of ten, in the arithmetic of the format: the power is a number of the format
itself, and every product and quotient is rounded. So the result may be off from the number nearest
to the exact product.

* `Binary64.mul?`, `Binary64.div?`: products and quotients;
* `Binary64.scale?`: the product with a power of ten.
-/

namespace FindSelect.Binary64

/-- The magnitude of a number as a quotient of whole numbers. -/
def ratio (x : Binary64) : Nat × Nat :=
  (x.significand * Nat.pow 2 x.exponent.toNat, Nat.pow 2 (-x.exponent).toNat)

/-- The number nearest to a product, or none when it is too large. -/
def mul? (x y : Binary64) : Option Binary64 :=
  let (n, d) := x.ratio
  let (n', d') := y.ratio
  ofRatio (x.negative != y.negative) (n * n') (d * d')

/-- The number nearest to a quotient, or none when it is too large. -/
def div? (x y : Binary64) : Option Binary64 :=
  let (n, d) := x.ratio
  let (n', d') := y.ratio
  ofRatio (x.negative != y.negative) (n * d') (d * n')

/-- The greatest power of ten of the format. -/
def maxPowerOfTen : Nat := 308

/-- The number nearest to a power of ten, up to the greatest. -/
def powerOfTen? (k : Nat) : Option Binary64 := ofRatio false (Nat.pow 10 k) 1

/-- The product of a number with a power of ten, or none when it is too large. Below the least power
of the format the number is divided by the greatest one first, as often as it takes. -/
def scale? (x : Binary64) (exponent : Int) : Option Binary64 :=
  if x.isZero then some x
  else if 0 ≤ exponent then
    if exponent ≤ maxPowerOfTen then do x.mul? (← powerOfTen? exponent.toNat) else none
  else if -maxPowerOfTen ≤ exponent then do x.div? (← powerOfTen? (-exponent).toNat)
  else do
    let y ← x.div? (← powerOfTen? maxPowerOfTen)
    y.scale? (exponent + maxPowerOfTen)
termination_by (-exponent).toNat
decreasing_by
  simp only [maxPowerOfTen] at *
  omega

end FindSelect.Binary64
