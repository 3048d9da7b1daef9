/-
# TripleAlgebra.Expression.Evaluate -- the value of an expression for a solution

An expression yields a term or an error.  Each operator is a function of what its
operands yielded, errors included, so the value of an expression depends on nothing
but the variables that it reads.

Logic tolerates errors: a conjunction with a false side is false and a disjunction
with a true side is true whatever the other side yields.  Where an error remains,
the left one is reported.
-/
import TripleAlgebra.Expression
import TripleAlgebra.Expression.Error
import TripleAlgebra.Expression.Number
import TripleAlgebra.Solution

namespace TripleAlgebra

set_option autoImplicit false

/-- What an expression yields: a term or an error. -/
abbrev Outcome := Except ExpressionError Term

/-! ## Truth -/

/-- The effective boolean value of a term: a boolean is itself, a string is true
unless it is empty, a number is true unless it is zero or undefined, and nothing else
has one. -/
def Term.truth : Term → Except ExpressionError Bool
  | .literal l =>
      if l.datatype = Xsd.boolean then
        if l.value = "true" ∨ l.value = "1" then .ok true
        else if l.value = "false" ∨ l.value = "0" then .ok false
        else .error (.typeError (.invalidBoolean l.value))
      else if l.datatype = Xsd.string then .ok (!l.value.isEmpty)
      else match Number.ofLiteral? l with
        | some n => .ok n.isTrue
        | none => .error (.typeError (.noBooleanValue (.literal l)))
  | t => .error (.typeError (.noBooleanValue t))

/-- The truth of what an expression yielded. -/
def Outcome.truth (o : Outcome) : Except ExpressionError Bool :=
  o >>= Term.truth

/-- False if a side is false, else the first error, else true. -/
def conjunction : Except ExpressionError Bool → Except ExpressionError Bool →
    Except ExpressionError Bool
  | .ok false, _ => .ok false
  | _, .ok false => .ok false
  | .error e, _ => .error e
  | _, .error e => .error e
  | .ok true, .ok true => .ok true

/-- True if a side is true, else the first error, else false. -/
def disjunction : Except ExpressionError Bool → Except ExpressionError Bool →
    Except ExpressionError Bool
  | .ok true, _ => .ok true
  | _, .ok true => .ok true
  | .error e, _ => .error e
  | _, .error e => .error e
  | .ok false, .ok false => .ok false

/-! ## Comparison -/

/-- The number that a term stands for, or the error that it is none. -/
def Term.number (t : Term) : Except ExpressionError Number :=
  match Number.ofTerm? t with
  | some n => .ok n
  | none => .error (.typeError (.notNumber t))

/-- Two numbers are the same if they are equal as numbers, all other terms if they
are equal as terms. -/
def Term.same (a b : Term) : Bool :=
  match Number.ofTerm? a, Number.ofTerm? b with
  | some m, some n => m.compare? n == some .eq
  | _, _ => a == b

/-- The text of a literal of the string datatype. -/
def Term.string? : Term → Option String
  | .literal l => if l.datatype = Xsd.string then some l.value else none
  | _ => none

/-- The order of two terms: numbers by value, strings by code points.  Nothing else
is ordered. -/
def Term.order (a b : Term) : Except ExpressionError Ordering :=
  match Number.ofTerm? a, Number.ofTerm? b with
  | some m, some n =>
      match m.compare? n with
      | some o => .ok o
      | none => .error (.typeError (.unordered a b))
  | _, _ =>
      match a.string?, b.string? with
      | some s, some t => .ok (compareOfLessAndEq s t)
      | _, _ => .error (.typeError (.incomparable a b))

/-! ## Operators -/

/-- What an operator yields for what its operand yielded. -/
def UnaryOp.apply (op : UnaryOp) (operand : Outcome) : Outcome :=
  match op with
  | not => do return Term.ofBool (!(← operand.truth))
  | str => do
      match ← operand with
      | .iri i => return .literal (.plain i)
      | .literal l => return .literal (.plain l.value)
      | t => throw (.typeError (.noString t))
  | isIri => do return Term.ofBool (← operand).isIri
  | isLiteral => do return Term.ofBool (← operand).isLiteral

/-- What an operator yields for what its operands yielded.  The operands of a
comparison are both evaluated before they are looked at; the left operand of an
addition must be a number before the right one is evaluated. -/
def BinaryOp.apply (op : BinaryOp) (left right : Outcome) : Outcome :=
  match op with
  | and => Term.ofBool <$> conjunction left.truth right.truth
  | or => Term.ofBool <$> disjunction left.truth right.truth
  | equal => do
      let a ← left
      let b ← right
      return Term.ofBool (a.same b)
  | notEqual => do
      let a ← left
      let b ← right
      return Term.ofBool (!a.same b)
  | less => do
      let a ← left
      let b ← right
      return Term.ofBool ((← a.order b) == .lt)
  | greater => do
      let a ← left
      let b ← right
      return Term.ofBool ((← a.order b) == .gt)
  | add => do
      let m ← (← left).number
      let n ← (← right).number
      return .literal (m.add n).toLiteral

namespace Expr

/-- The value of an expression for a solution. -/
def evaluate (s : Solution) : Expr → Outcome
  | var name =>
      match s.get? name with
      | some term => .ok term
      | none => .error (.unbound name)
  | const term => .ok term
  | bound name => .ok (Term.ofBool (s.has name))
  | unary op operand => op.apply (operand.evaluate s)
  | binary op left right => op.apply (left.evaluate s) (right.evaluate s)

/-- The expression is true for the solution; an error counts as not true. -/
def holds (e : Expr) (s : Solution) : Bool :=
  match (e.evaluate s).truth with
  | .ok b => b
  | .error _ => false

/-- The solution passes an optional filter. -/
def accepts (filter : Option Expr) (s : Solution) : Bool :=
  match filter with
  | some e => e.holds s
  | none => true

end Expr

end TripleAlgebra
