/-
# TripleAlgebra.Decimal.Shortest -- the fewest digits that single out a binary number

A binary number of limited precision stands for every real number that rounds to
it: an interval around its value.  `shortest` finds a decimal in that interval with
the fewest significant digits, and among those the one nearest to the value; of two
equally near ones the greater.

For each count of digits it is enough to look at the two neighbours of the value on
the grid of decimals with that many digits: if any decimal of the grid lies in the
interval, so does one of the neighbours.
-/
namespace TripleAlgebra.Decimal

set_option autoImplicit false

/-- The reals that round to a positive binary number.  The bounds and the value are
multiples of one power of two; the bounds belong to the interval if it is closed. -/
structure RoundingInterval where
  low : Nat
  value : Nat
  high : Nat
  exponent : Int
  closed : Bool

/-- A decimal: some digits, read as a number, times a power of ten. -/
structure Scaled where
  digits : Nat
  exponent : Int

/-- `n · base^e`; a negative `e` leaves `n` alone, so that a fraction is scaled by its
exponent above and by the negated exponent below. -/
def scale (base : Nat) (e : Int) (n : Nat) : Nat :=
  n * Nat.pow base e.toNat

/-- `a · 10^i` against `b · 2^j`, exactly. -/
def compareDecimalBinary (a : Nat) (i : Int) (b : Nat) (j : Int) : Ordering :=
  compare (scale 2 (-j) (scale 10 i a)) (scale 10 (-i) (scale 2 j b))

namespace RoundingInterval

/-- The decimal `digits · 10^exponent` lies in the interval. -/
def contains (r : RoundingInterval) (digits : Nat) (exponent : Int) : Bool :=
  let above := compareDecimalBinary digits exponent r.low r.exponent
  let below := compareDecimalBinary digits exponent r.high r.exponent
  (above == .gt || (r.closed && above == .eq)) && (below == .lt || (r.closed && below == .eq))

/-- The value as a multiple of `10^exponent`, rounded down. -/
def floorAt (r : RoundingInterval) (exponent : Int) : Nat :=
  scale 10 (-exponent) (scale 2 r.exponent r.value) /
    scale 10 exponent (scale 2 (-r.exponent) 1)

/-- The number of digits before the decimal point; zero or less counts the zeros that
follow the point. -/
def magnitude (r : RoundingInterval) : Int :=
  let numerator := scale 2 r.exponent r.value
  let denominator := scale 2 (-r.exponent) 1
  let whole := numerator / denominator
  if whole ≠ 0 then (Nat.toDigits 10 whole).length
  else
    let gap := (Nat.toDigits 10 denominator).length - (Nat.toDigits 10 numerator).length
    if gap ≠ 0 ∧ denominator ≤ scale 10 gap numerator then 1 - gap else -gap

/-- Of the two neighbours of the value at `10^exponent`, one that lies in the interval:
the nearer one if both do, and the upper one if both are equally near. -/
def neighbour? (r : RoundingInterval) (exponent : Int) : Option Scaled :=
  let floor := r.floorAt exponent
  match r.contains floor exponent, r.contains (floor + 1) exponent with
  | true, true =>
      -- the midpoint of the two neighbours against the value
      let middle := compareDecimalBinary (2 * floor + 1) exponent r.value (r.exponent + 1)
      some ⟨if middle == .gt then floor else floor + 1, exponent⟩
  | true, false => some ⟨floor, exponent⟩
  | false, true => some ⟨floor + 1, exponent⟩
  | false, false => none

/-- A nearest decimal among those with the fewest digits.  Seventeen digits single out
every number of 53 bits. -/
def shortest (r : RoundingInterval) : Scaled :=
  let top := r.magnitude
  ((List.range 17).findSome? fun (n : Nat) => r.neighbour? (top - (n + 1))).getD
    ⟨r.floorAt (top - 17), top - 17⟩

end RoundingInterval

namespace Scaled

/-- The digits with zeros at their end taken off, and the exponent that goes with
them. -/
def trimmed (d : Scaled) : List Char × Int :=
  let written := Nat.toDigits 10 d.digits
  let kept := (written.reverse.dropWhile (· == '0')).reverse
  (kept, d.exponent + (written.length - kept.length))

/-- The decimal written out in full, without an exponent: a point only where there is
a fraction, and a zero before the point where there is no whole part. -/
def positional (d : Scaled) : List Char :=
  let (digits, exponent) := d.trimmed
  if 0 ≤ exponent then digits ++ List.replicate exponent.toNat '0'
  else
    let places := (-exponent).toNat
    if places < digits.length then
      digits.take (digits.length - places) ++ '.' :: digits.drop (digits.length - places)
    else '0' :: '.' :: List.replicate (places - digits.length) '0' ++ digits

end Scaled

end TripleAlgebra.Decimal
