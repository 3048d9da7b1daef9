/-
# TripleAlgebra.Expression.Error -- why an expression has no value

An expression has no value for a solution when it reads a variable that is not
bound, or when an operand is of a kind that the operator does not take.  The errors
name the terms at fault; `ExpressionError.message` puts them into words.
-/
import TripleAlgebra.Term.Text
import TripleAlgebra.Text.Quoted

namespace TripleAlgebra

set_option autoImplicit false

/-- What is wrong with an operand. -/
inductive TypeFault where
  /-- The term is neither true nor false. -/
  | noBooleanValue (term : Term)
  /-- A literal of the boolean datatype whose text is no truth value. -/
  | invalidBoolean (text : String)
  /-- The term is not a number. -/
  | notNumber (term : Term)
  /-- Two numbers of which neither is less and which are not equal. -/
  | unordered (left right : Term)
  /-- Two terms that cannot be compared. -/
  | incomparable (left right : Term)
  /-- The term has no text of its own. -/
  | noString (term : Term)
  /-- A fault put into words by whoever found it. -/
  | other (message : String)
deriving DecidableEq

/-- Why an expression has no value. -/
inductive ExpressionError where
  /-- A variable that the expression reads is not bound. -/
  | unbound (name : String)
  /-- An operand is of the wrong kind. -/
  | typeError (fault : TypeFault)
deriving DecidableEq

def TypeFault.message : TypeFault → String
  | noBooleanValue term => term.text ++ " has no boolean value"
  | invalidBoolean text => "invalid boolean lexical form " ++ Text.quoted text
  | notNumber term => term.text ++ " is not a number"
  | unordered left right => left.text ++ " and " ++ right.text ++ " are not ordered"
  | incomparable left right => "cannot compare " ++ left.text ++ " with " ++ right.text
  | noString term => "str() is not defined for " ++ term.text
  | other message => message

def ExpressionError.message : ExpressionError → String
  | unbound name => "variable " ++ variableText name ++ " is not bound"
  | typeError fault => "type error: " ++ fault.message

end TripleAlgebra
