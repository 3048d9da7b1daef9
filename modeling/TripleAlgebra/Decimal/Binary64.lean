/-
# TripleAlgebra.Decimal.Binary64 -- double-precision numbers as decimal text

A double is read from a decimal with an optional fraction and exponent and is the
number nearest to it, ties to even.  The words for infinity and for what is not a
number are read as well.  A finite double is written with the fewest digits that
single it out, in full and without an exponent.
-/
import TripleAlgebra.Decimal.Integer
import TripleAlgebra.Decimal.Shortest

namespace TripleAlgebra.Decimal.Binary64

set_option autoImplicit false

/-! ## Reading -/

def infinity : Float := Float.ofBits 0x7ff0000000000000

def notANumber : Float := Float.ofBits 0x7ff8000000000000

/-- The double nearest to `±mantissa · 10^exponent`.  Beyond about 1.8e308 it is an
infinity and below about 2.5e-324 it is zero, so a decimal that is far outside is
decided by its magnitude. -/
def ofDecimal (negative : Bool) (mantissa : Nat) (exponent : Int) : Float :=
  let magnitude := (Nat.toDigits 10 mantissa).length + exponent
  let size :=
    if mantissa = 0 ∨ magnitude < -330 then 0
    else if 330 < magnitude then infinity
    else Float.ofScientific mantissa (exponent < 0) exponent.natAbs
  if negative then -size else size

/-- The double nearest to a whole number. -/
def ofInt (i : Int) : Float :=
  ofDecimal (i < 0) i.natAbs 0

/-- The words that stand for no finite number, in lower case. -/
def special? (negative : Bool) (word : List Char) : Option Float :=
  if word = "inf".toList ∨ word = "infinity".toList then
    some (if negative then -infinity else infinity)
  else if word = "nan".toList then some notANumber
  else none

/-- An exponent: nothing, or an `e` with an optional sign and digits. -/
def exponent? : List Char → Option Int
  | [] => some 0
  | c :: rest =>
      if c = 'e' ∨ c = 'E' then
        match rest with
        | '+' :: digits => (digits? digits).map Int.ofNat
        | '-' :: digits => (digits? digits).map fun n : Nat => -(n : Int)
        | digits => (digits? digits).map Int.ofNat
      else none

/-- A finite number without its sign: digits with an optional point among them or at
either end, at least one digit, and an exponent. -/
def finite? (negative : Bool) (text : List Char) : Option Float :=
  let whole := text.takeWhile Char.isDigit
  let rest := text.dropWhile Char.isDigit
  let (fraction, rest) := match rest with
    | '.' :: rest => (rest.takeWhile Char.isDigit, rest.dropWhile Char.isDigit)
    | rest => ([], rest)
  if whole.isEmpty && fraction.isEmpty then none
  else
    (exponent? rest).map fun exponent =>
      ofDecimal negative (Nat.ofDigitChars 10 (whole ++ fraction) 0) (exponent - fraction.length)

/-- The double that a text denotes. -/
def read? (text : List Char) : Option Float :=
  let (negative, rest) := match text with
    | '-' :: rest => (true, rest)
    | '+' :: rest => (false, rest)
    | rest => (false, rest)
  (special? negative (rest.map Char.toLower)).or (finite? negative rest)

/-! ## Writing -/

/-- The leading bit of a normal double's mantissa, which its bits leave out: `2^52`. -/
def hiddenBit : Nat := 0x10000000000000

/-- The bit of the sign: `2^63`. -/
def signBit : Nat := 0x8000000000000000

/-- The reals that round to a positive finite double, from its bits.  The gap to the
next lower double is half as wide as the upper one at a power of two. -/
def roundingInterval (bits : Nat) : RoundingInterval :=
  let fraction := bits % hiddenBit
  let biased := bits / hiddenBit % 0x800
  let mantissa := if biased = 0 then fraction else hiddenBit + fraction
  let exponent : Int := (max biased 1 : Nat) - 1075
  { low := 4 * mantissa - (if fraction = 0 then 1 else 2)
    value := 4 * mantissa
    high := 4 * mantissa + 2
    exponent := exponent - 2
    closed := mantissa % 2 = 0 }

/-- A finite double in full, with the fewest digits that are read back as it. -/
def finiteText (x : Float) : String :=
  let bits := x.toBits.toNat
  let sign := if bits / signBit = 1 then "-" else ""
  let size := bits % signBit
  sign ++ (if size = 0 then "0" else String.ofList (roundingInterval size).shortest.positional)

/-- A double as text: its digits, or the word for what is not finite. -/
def text (x : Float) : String :=
  if x.isNaN then "NaN"
  else if x.isInf then (if x < 0 then "-INF" else "INF")
  else finiteText x

end TripleAlgebra.Decimal.Binary64
