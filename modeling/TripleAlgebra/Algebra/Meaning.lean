/-
# TripleAlgebra.Algebra.Meaning -- what a query means

The meaning of a query over a list of triples is a list of solutions, made from the
meanings of its children and nothing else.  There is no input, no index, no bucket and
no short cut: every pattern looks at every triple in order, and every combinator at
the full lists of both its children.

Only an extension can fail, when an assignment would change a binding; a query with
such an extension in it has that error for its meaning.
-/
import TripleAlgebra.Algebra.Evaluate

namespace TripleAlgebra

set_option autoImplicit false

/-- The solutions of a pattern over some triples, in the order of the triples.  A
pattern without variables has one empty solution if its triple is among them. -/
def Pattern.meaning (p : Pattern) (triples : List Triple) : List Solution :=
  if p.isGround then (if triples.any p.fits then [∅] else [])
  else (triples.filter p.fits).map p.bind

/-- The solutions of a chain of patterns: all pairs with each further pattern, starting
from one empty solution. -/
def bgpMeaning (ps : List Pattern) (triples : List Triple) : List Solution :=
  ps.foldl (fun found p => Bag.nestedLoop found (p.meaning triples)) [∅]

/-- What a modifier makes of a list of solutions. -/
def Modifier.meaning (modifier : Modifier) (solutions : List Solution) :
    Except EvaluationError (List Solution) :=
  match modifier with
  | extend assignments => extendSolutions assignments.toList 0 solutions
  | filter condition => .ok (solutions.filter condition.holds)
  | distinct => .ok solutions.eraseDups
  | project names => .ok (solutions.map (Solution.project names))
  | slice offset none => .ok (solutions.drop offset)
  | slice offset (some count) => .ok ((solutions.drop offset).take count)

/-- What a combinator makes of two lists of solutions. -/
def Combinator.meaning (combinator : Combinator) (left right : List Solution) :
    List Solution :=
  match combinator with
  | join => Bag.nestedLoop left right
  | leftJoin filter => Bag.optionalMatches (Expr.accepts filter) left right
  | union => left ++ right
  | semiJoin mustExist => left.filter fun s => right.any s.compatible == mustExist
  | minus => left.filter fun s => !right.any fun t => s.sharesVariable t && s.compatible t

namespace Algebra

/-- The solutions of a query over some triples. -/
def meaning (triples : List Triple) : Algebra → Except EvaluationError (List Solution)
  | pattern p => .ok (p.meaning triples)
  | bgp ps => .ok (bgpMeaning ps triples)
  | modify modifier inner => do modifier.meaning (← inner.meaning triples)
  | combine combinator left right => do
      let leftSolutions ← left.meaning triples
      let rightSolutions ← right.meaning triples
      return combinator.meaning leftSolutions rightSolutions

end Algebra

/-- The solutions of a bag made of a list are the list. -/
theorem Bag.map_solutions_ofExcept (names : NameSet)
    (found : Except EvaluationError (List Solution)) :
    (found.map (Bag.ofSolutions names)).map Bag.solutions = found := by
  cases found <;> rfl

/-- A modifier does to the solutions of a bag what it means. -/
theorem Modifier.solutions_apply (modifier : Modifier) (b : Bag) :
    (modifier.apply b).map Bag.solutions = modifier.meaning b.solutions := by
  cases modifier with
  | extend assignments =>
      simp only [apply, meaning]
      cases b with
      | null => rfl
      | identity => exact Bag.map_solutions_ofExcept _ _
      | regular names solutions => exact Bag.map_solutions_ofExcept _ _
  | filter condition => exact congrArg Except.ok (Bag.solutions_retain condition.holds b)
  | distinct => exact congrArg Except.ok (Bag.solutions_distinct b)
  | project names => exact congrArg Except.ok (Bag.solutions_project names b)
  | slice offset limit =>
      cases limit with
      | none => exact congrArg Except.ok (Bag.solutions_slice offset none b)
      | some count => exact congrArg Except.ok (Bag.solutions_slice offset (some count) b)

end TripleAlgebra
