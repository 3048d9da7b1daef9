/-
# TripleAlgebra.Algebra.Text -- queries in their written form

A query is written with its operators in front, in parentheses: the operator's name,
its parameters, then its children.  The filter of an optional join follows the
children, and is left out if there is none; a run of solutions without an end has an
underscore for its length.
-/
import TripleAlgebra.Algebra

namespace TripleAlgebra

set_option autoImplicit false

/-- Texts in parentheses, with a space between two of them. -/
def parenthesized (parts : List String) : String :=
  "(" ++ " ".intercalate parts ++ ")"

def Assignment.render (format : TermFormat) (a : Assignment) : String :=
  parenthesized [variableText a.name, a.value.render format]

/-- The parameters of a modifier, which stand before the child. -/
def Modifier.parameters (format : TermFormat) : Modifier → List String
  | extend assignments => [parenthesized (assignments.toList.map (Assignment.render format))]
  | filter condition => [condition.render format]
  | distinct => []
  | project names => [parenthesized (names.map variableText)]
  | slice offset limit =>
      [offset.repr, match limit with
        | some count => count.repr
        | none => "_"]

/-- The parameters of a combinator, which stand behind the children. -/
def Combinator.parameters (format : TermFormat) : Combinator → List String
  | leftJoin (some filter) => [filter.render format]
  | _ => []

namespace Algebra

/-- The query in its written form. -/
def render (format : TermFormat) : Algebra → String
  | pattern p => p.render format
  | bgp ps => parenthesized ("bgp" :: ps.map (Pattern.render format))
  | modify modifier inner =>
      parenthesized (modifier.name :: modifier.parameters format ++ [inner.render format])
  | combine combinator left right =>
      parenthesized ([combinator.name, left.render format, right.render format] ++
        combinator.parameters format)

/-- The canonical text of a query: its written form with all terms in full. -/
def text (a : Algebra) : String :=
  a.render Term.text

end Algebra

end TripleAlgebra
