/-
# TripleAlgebra.Expression.Number -- literals as numbers

A literal of an integer datatype is a whole number of 64 bits, one of a decimal or
floating datatype is a double; a literal whose text does not fit its datatype is no
number.  Whole numbers are compared and added exactly.  As soon as a double takes
part, or a sum leaves the range of whole numbers, the result is that of doubles.
-/
import TripleAlgebra.Term
import TripleAlgebra.Decimal.Binary64

namespace TripleAlgebra

set_option autoImplicit false

/-- A number that a literal can stand for. -/
inductive Number where
  | integer (i : Int)
  | double (x : Float)

namespace Number

/-- The datatypes of whole numbers. -/
def integerTypes : List String := [Xsd.integer, Xsd.int, Xsd.long, Xsd.short]

theorem mem_integerTypes {type : String} : type ∈ integerTypes ↔
    type = Xsd.integer ∨ type = Xsd.int ∨ type = Xsd.long ∨ type = Xsd.short := by
  simp [integerTypes]

/-- The datatypes of numbers with a fraction. -/
def doubleTypes : List String := [Xsd.decimal, Xsd.double, Xsd.float]

/-- The number that a literal stands for. -/
def ofLiteral? (l : Literal) : Option Number :=
  if l.datatype ∈ integerTypes then (Decimal.readSigned? l.value.toList).map integer
  else if l.datatype ∈ doubleTypes then (Decimal.Binary64.read? l.value.toList).map double
  else none

/-- The number that a term stands for. -/
def ofTerm? : Term → Option Number
  | .literal l => ofLiteral? l
  | _ => none

/-- The double nearest to the number. -/
def toFloat : Number → Float
  | integer i => Decimal.Binary64.ofInt i
  | double x => x

/-- The number is neither zero nor undefined. -/
def isTrue : Number → Bool
  | integer i => i != 0
  | double x => !(x == 0) && !x.isNaN

/-- The order of two numbers, unless one of them is undefined. -/
def compare? : Number → Number → Option Ordering
  | integer i, integer j => some (compare i j)
  | a, b =>
      let x := a.toFloat
      let y := b.toFloat
      if x < y then some .lt
      else if y < x then some .gt
      else if x == y then some .eq
      else none

/-- The sum of two numbers. -/
def add : Number → Number → Number
  | integer i, integer j =>
      if Decimal.isSigned (i + j) then integer (i + j)
      else double ((integer i).toFloat + (integer j).toFloat)
  | a, b => double (a.toFloat + b.toFloat)

/-- The literal of a number. -/
def toLiteral : Number → Literal
  | integer i => .typed (Decimal.signedText i) Xsd.integer
  | double x => .typed (Decimal.Binary64.text x) Xsd.double

end Number

end TripleAlgebra
