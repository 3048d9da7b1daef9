/-
# TripleAlgebra.Algebra -- queries as trees of operators

The leaves of a query are patterns and chains of patterns.  Inner nodes are of two
kinds: a modifier transforms the answer of one child, and a combinator puts the
answers of two children together.  Operators carry their parameters, so a node is an
operator with its children and nothing else.
-/
import TripleAlgebra.Expression
import TripleAlgebra.Pattern

namespace TripleAlgebra

set_option autoImplicit false

/-! ## Errors -/

/-- Why a node could not be built. -/
inductive AlgebraError where
  /-- An extension without any assignment. -/
  | emptyExtend
  /-- A node was given too many or too few children. -/
  | childCount (operator : String) (expected actual : Nat)
deriving DecidableEq

def AlgebraError.message : AlgebraError → String
  | emptyExtend => "extend requires at least one assignment"
  | childCount operator expected actual =>
      operator ++ " takes " ++ expected.repr ++ " children but " ++ actual.repr ++ " were given"

/-! ## Operators -/

/-- A variable with the expression whose value it receives. -/
structure Assignment where
  name : String
  value : Expr
deriving DecidableEq

/-- One assignment or more, in order. -/
structure Assignments where
  first : Assignment
  rest : List Assignment
deriving DecidableEq

namespace Assignments

def toList (a : Assignments) : List Assignment :=
  a.first :: a.rest

/-- The assignments of a list, which must not be empty. -/
def ofList : List Assignment → Except AlgebraError Assignments
  | [] => .error .emptyExtend
  | first :: rest => .ok ⟨first, rest⟩

/-- The names that receive a value. -/
def names (a : Assignments) : NameSet :=
  NameSet.ofList (a.toList.map Assignment.name)

end Assignments

/-- Operators with one child. -/
inductive Modifier where
  /-- Bind further variables in every solution. -/
  | extend (assignments : Assignments)
  /-- Keep the solutions for which an expression is true. -/
  | filter (condition : Expr)
  /-- Keep the first occurrence of each solution. -/
  | distinct
  /-- Keep the bindings of the listed variables. -/
  | project (names : List String)
  /-- Keep a run of the solutions. -/
  | slice (offset : Nat) (limit : Option Nat)
deriving DecidableEq

/-- Operators with two children. -/
inductive Combinator where
  | join
  /-- Extend left solutions where there is something to extend them by. -/
  | leftJoin (filter : Option Expr)
  | union
  /-- Keep the left solutions that have a compatible right one, or those that have
  none. -/
  | semiJoin (mustExist : Bool)
  /-- Drop the left solutions that overlap with a compatible right one. -/
  | minus
deriving DecidableEq

/-- A query. -/
inductive Algebra where
  | pattern (pattern : Pattern)
  /-- A chain of joined patterns. -/
  | bgp (patterns : List Pattern)
  | modify (modifier : Modifier) (inner : Algebra)
  | combine (combinator : Combinator) (left right : Algebra)
deriving DecidableEq

/-- The name of an operator in written queries and messages. -/
def Modifier.name : Modifier → String
  | extend _ => "extend"
  | filter _ => "filter"
  | distinct => "distinct"
  | project _ => "project"
  | slice _ _ => "slice"

/-- The name of an operator in written queries and messages. -/
def Combinator.name : Combinator → String
  | join => "join"
  | leftJoin _ => "leftjoin"
  | union => "union"
  | semiJoin mustExist => if mustExist then "exists" else "notexists"
  | minus => "minus"

namespace Algebra

/-- The name of the operator at the root. -/
def operatorName : Algebra → String
  | pattern _ => "triple"
  | bgp _ => "bgp"
  | modify modifier _ => modifier.name
  | combine combinator _ _ => combinator.name

/-- The root extends solutions by assignments. -/
def isExtend : Algebra → Bool
  | modify (.extend _) _ => true
  | _ => false

/-- The nodes of the tree, each before its children and the left before the right. -/
def nodes : Algebra → List Algebra
  | pattern p => [pattern p]
  | bgp ps => [bgp ps]
  | modify modifier inner => modify modifier inner :: inner.nodes
  | combine combinator left right =>
      combine combinator left right :: (left.nodes ++ right.nodes)

end Algebra

end TripleAlgebra
