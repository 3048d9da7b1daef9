/-
# TripleAlgebra.Expression -- expressions over the bindings of one solution

Expressions read variables and combine terms: tests of a term's kind, text of a
term, comparison, addition and logic.  This module holds their form, the names they
read and their written form; `TripleAlgebra.Expression.Evaluate` says what they
yield.
-/
import TripleAlgebra.NameSet
import TripleAlgebra.Term.Text

namespace TripleAlgebra

set_option autoImplicit false

/-- Operators with one operand. -/
inductive UnaryOp where
  | not
  | str
  | isIri
  | isLiteral
deriving DecidableEq

/-- Operators with two operands. -/
inductive BinaryOp where
  | and
  | or
  | equal
  | notEqual
  | less
  | greater
  | add
deriving DecidableEq

/-- An expression. -/
inductive Expr where
  /-- The term that a variable is bound to. -/
  | var (name : String)
  | const (term : Term)
  /-- Whether a variable is bound. -/
  | bound (name : String)
  | unary (op : UnaryOp) (operand : Expr)
  | binary (op : BinaryOp) (left right : Expr)
deriving DecidableEq

/-- The symbol of an operator in a written expression. -/
def UnaryOp.symbol : UnaryOp → String
  | not => "!"
  | str => "str"
  | isIri => "isIRI"
  | isLiteral => "isLiteral"

/-- The symbol of an operator in a written expression. -/
def BinaryOp.symbol : BinaryOp → String
  | and => "&&"
  | or => "||"
  | equal => "="
  | notEqual => "!="
  | less => "<"
  | greater => ">"
  | add => "+"

namespace Expr

/-- The names that the expression reads. -/
def names : Expr → NameSet
  | var name => NameSet.ofList [name]
  | const _ => ∅
  | bound name => NameSet.ofList [name]
  | unary _ operand => operand.names
  | binary _ left right => left.names ∪ right.names

/-- The expression in its written form: operators in front of their operands, in
parentheses. -/
def render (format : TermFormat) : Expr → String
  | var name => variableText name
  | const term => format term
  | bound name => "(bound " ++ variableText name ++ ")"
  | unary op operand => "(" ++ op.symbol ++ " " ++ operand.render format ++ ")"
  | binary op left right =>
      "(" ++ op.symbol ++ " " ++ left.render format ++ " " ++ right.render format ++ ")"

end Expr

end TripleAlgebra
