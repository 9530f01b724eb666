import FindSelect.Decimal.Binary64

/-!
# Shortest decimals

The decimal written for a binary64 number has the fewest digits that read back as the number, and
is the nearest such decimal.

* `Binary64.interval`: the reals that round to a number;
* `Binary64.shortest`: the shortest decimal in it;
* `Binary64.chars`: its text, positional for the exponents `-5` to `15` and scientific beyond.
-/

namespace FindSelect

/-- The positive decimal `digits · 10 ^ exponent`. -/
structure Decimal where
  digits : Nat
  exponent : Int
  deriving DecidableEq, Repr

/-- The reals that round to a positive number, in quarters of its last place: `low` and `high` are
the ends, `mid` the number itself, and `unit` the exponent of two of a quarter. -/
structure RoundingInterval where
  low : Nat
  mid : Nat
  high : Nat
  unit : Int
  closed : Bool
  deriving DecidableEq, Repr

/-- The ends belong to the interval when the significand is even. Below a power of two the numbers
lie closer together, so the lower end is nearer. -/
def Binary64.interval (x : Binary64) : RoundingInterval where
  low := 4 * x.significand -
    (if x.significand = 0x10000000000000 ∧ x.exponent ≠ -1074 then 1 else 2)
  mid := 4 * x.significand
  high := 4 * x.significand + 2
  unit := x.exponent - 2
  closed := x.significand % 2 == 0

namespace RoundingInterval

/-- `c · 10 ^ s` and `q` quarters, both over the common denominator of the two units. -/
def common (i : RoundingInterval) (c : Nat) (s : Int) (q : Nat) : Nat × Nat :=
  (c * Nat.pow 10 s.toNat * Nat.pow 2 (-i.unit).toNat,
    q * Nat.pow 2 i.unit.toNat * Nat.pow 10 (-s).toNat)

/-- Whether `c · 10 ^ s` lies in the interval. -/
def contains (i : RoundingInterval) (c : Nat) (s : Int) : Bool :=
  let (a, low) := i.common c s i.low
  let (_, high) := i.common c s i.high
  if i.closed then low ≤ a && a ≤ high else low < a && a < high

/-- The greatest multiple of `10 ^ s` that is not above the number. -/
def floorAt (i : RoundingInterval) (s : Int) : Nat :=
  (i.mid * Nat.pow 2 i.unit.toNat * Nat.pow 10 (-s).toNat) /
    (Nat.pow 10 s.toNat * Nat.pow 2 (-i.unit).toNat)

/-- The nearest multiple of `10 ^ s` that lies in the interval; of two equally near, the even
one. -/
def nearestAt? (i : RoundingInterval) (s : Int) : Option Decimal :=
  let below := i.floorAt s
  let above := below + 1
  match i.contains below s, i.contains above s with
  | false, false => none
  | true, false => some ⟨below, s⟩
  | false, true => some ⟨above, s⟩
  | true, true =>
    let (a, mid) := i.common below s i.mid
    let (b, _) := i.common above s i.mid
    if mid - a < b - mid ∨ mid - a = b - mid ∧ below % 2 = 0 then some ⟨below, s⟩
    else some ⟨above, s⟩

end RoundingInterval

/-- The exponent of ten of the leading digit. Every positive number is at least `10 ^ (-400)`, so
the number of digits before the point of its product with `10 ^ 400` tells the exponent. -/
def RoundingInterval.leading (i : RoundingInterval) : Int :=
  ((Nat.toDigits 10 (i.floorAt (-400))).length : Int) - 401

/-- The shortest decimal that reads back as a positive number: the first of the lengths one to
seventeen at which the grid of decimals has a point in the interval. -/
def Binary64.shortest (x : Binary64) : Decimal :=
  let i := x.interval
  let grids := (List.range 17).map fun (k : Nat) => i.leading - (k : Int)
  (grids.findSome? i.nearestAt?).getD ⟨i.floorAt (i.leading - 16), i.leading - 16⟩

/-! ## Text -/

/-- The digits of a decimal, without the zeros at their end. -/
def Decimal.significant (d : Decimal) : List Char :=
  ((Nat.toDigits 10 d.digits).reverse.dropWhile (· == '0')).reverse

/-- The exponent of ten of the leading digit. -/
def Decimal.leading (d : Decimal) : Int :=
  ((Nat.toDigits 10 d.digits).length : Int) - 1 + d.exponent

/-- Digits in positional form, with a point always: `e` is the exponent of the leading digit. -/
def positional (digits : List Char) (e : Int) : List Char :=
  if e < 0 then '0' :: '.' :: (List.replicate (-e - 1).toNat '0' ++ digits)
  else
    let whole := digits.take (e.toNat + 1)
    let fraction := digits.drop (e.toNat + 1)
    whole ++ List.replicate (e.toNat + 1 - whole.length) '0' ++
      '.' :: (if fraction.isEmpty then ['0'] else fraction)

/-- Digits in scientific form, with an explicit sign of the exponent. -/
def scientific (digits : List Char) (e : Int) : List Char :=
  digits.take 1 ++ (if digits.length ≤ 1 then [] else '.' :: digits.drop 1) ++
    'e' :: (if e < 0 then '-' else '+') :: Nat.toDigits 10 e.natAbs

/-- The text of a number: its shortest decimal, positional when the leading digit stands between
the fifth place after the point and the sixteenth before it. -/
def Binary64.chars (x : Binary64) : List Char :=
  let magnitude :=
    if x.isZero then ['0', '.', '0']
    else
      let d := x.shortest
      if -5 ≤ d.leading ∧ d.leading ≤ 15 then positional d.significant d.leading
      else scientific d.significant d.leading
  if x.negative then '-' :: magnitude else magnitude

end FindSelect
