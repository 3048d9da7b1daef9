/-
# TripleAlgebra.Algebra.Evaluate -- the answer to a query

A query is evaluated under an input, a bag of solutions that its answer is going to be
joined with.  The input only saves work: it tells patterns which terms are worth
asking for.

* A chain of patterns starts from the first pattern's answer under the input; every
  further pattern has the answer so far as its input and is joined to it.
* A modifier looks at its child's answer.  The child sees the input, except below a
  projection or a slice, which could drop what the input narrows.
* A combinator evaluates its left child first.  If that has no solution the answer is
  `null` and the right child is not looked at; only a union always evaluates both.

After each answer of a child and after each step of its own, a node passes a
checkpoint.
-/
import TripleAlgebra.Algebra.Scope
import TripleAlgebra.Bag.Join
import TripleAlgebra.Expression.Evaluate
import TripleAlgebra.Pattern.Matching

namespace TripleAlgebra

set_option autoImplicit false

/-! ## Extending solutions -/

/-- A solution after one assignment, or nothing if the variable is bound to another
term.  An expression without a value leaves the solution as it is. -/
def Assignment.apply? (a : Assignment) (s : Solution) : Option Solution :=
  match a.value.evaluate s with
  | .error _ => some s
  | .ok term =>
      match s.get? a.name with
      | some bound => if bound = term then some s else none
      | none => some (s.insert a.name term)

/-- A solution after some assignments, each of which sees those before it; or the
variable of the first assignment that would change a binding. -/
def extendSolution : List Assignment → Solution → Except String Solution
  | [], s => .ok s
  | a :: rest, s =>
      match a.apply? s with
      | some extended => extendSolution rest extended
      | none => .error a.name

/-- Solutions after some assignments.  The first conflict ends it; its solution is
counted from `index`. -/
def extendSolutions (assignments : List Assignment) :
    (index : Nat) → List Solution → Except EvaluationError (List Solution)
  | _, [] => .ok []
  | index, s :: rest =>
      match extendSolution assignments s with
      | .error name => .error (.rebinding name index)
      | .ok extended => (extendSolutions assignments (index + 1) rest).map (extended :: ·)

/-- Every solution of a bag after some assignments. -/
def Bag.extend (b : Bag) (assignments : Assignments) : Except EvaluationError Bag :=
  match b with
  | .null => .ok .null
  | b =>
      (extendSolutions assignments.toList 0 b.solutions).map
        (.ofSolutions (b.names ∪ assignments.names))

/-! ## Operators on answers -/

/-- What a modifier makes of its child's answer. -/
def Modifier.apply (modifier : Modifier) (b : Bag) : Except EvaluationError Bag :=
  match modifier with
  | extend assignments => b.extend assignments
  | filter condition => .ok (b.retain condition.holds)
  | distinct => .ok b.distinct
  | project names => .ok (b.project names)
  | slice offset limit => .ok (b.slice offset limit)

/-- What a combinator makes of its children's answers. -/
def Combinator.apply (combinator : Combinator) (left right : Bag) : Bag :=
  match combinator with
  | join => left.join right
  | leftJoin filter => left.leftJoin right (Expr.accepts filter)
  | union => left.union right
  | semiJoin mustExist => left.semiJoin right mustExist
  | minus => left.minus right

/-! ## Inputs -/

/-- The input of a modifier's child. -/
def Modifier.innerInput (modifier : Modifier) (input : Bag) : Bag :=
  match modifier with
  | project _ => .identity
  | slice _ _ => .identity
  | _ => input

/-- The left answer may be the input of an optional right child: the two share a
variable, none floats on one side and is bound on the other, and none of the left
side's floating variables comes from further out. -/
def linearizes (left right : Scope) (outer : NameSet) : Bool :=
  left.floating.disjoint outer && right.floating.disjoint left.names &&
    right.fixed.disjoint left.floating && !left.names.disjoint right.names

/-- The input of a combinator's left child.  A union with an extension on a side
starts from `identity`, on both sides. -/
def Combinator.leftInput (combinator : Combinator) (left right : Algebra) (input : Bag) : Bag :=
  match combinator with
  | union => if left.isExtend || right.isExtend then .identity else input
  | _ => input

/-- The input of a combinator's right child, given the left one's answer. -/
def Combinator.rightInput (combinator : Combinator) (left right : Algebra) (input answer : Bag) :
    Bag :=
  match combinator with
  | join => answer
  | semiJoin _ => answer
  | leftJoin _ => if linearizes left.scope right.scope input.names then answer else .identity
  | union => combinator.leftInput left right input
  | minus => .identity

/-- The right child is looked at only if the left one has a solution. -/
def Combinator.needsLeft : Combinator → Bool
  | union => false
  | _ => true

/-! ## Evaluation -/

/-- The value of a pure step, or its error. -/
def Evaluation.ofExcept {α : Type} : Except EvaluationError α → Evaluation α
  | .ok a => .done a
  | .error e => .failed e

/-- The rest of a chain of patterns after an answer.  An answer without solutions ends
the chain. -/
def evaluateChain (fullIndexing : Bool) : Bag → List Pattern → Evaluation Bag
  | answer, [] => return answer
  | answer, p :: rest =>
      if answer.isEmpty then return .null
      else do
        let found ← (p.evaluate fullIndexing answer).checked
        let joined ← (pure (answer.join found) : Evaluation Bag).checked
        evaluateChain fullIndexing joined rest

/-- The answer to a chain of patterns.  No pattern at all is answered by `identity`. -/
def evaluateBgp (fullIndexing : Bool) (ps : List Pattern) (input : Bag) : Evaluation Bag :=
  match ps with
  | [] => return .identity
  | p :: rest => do
      let answer ← (p.evaluate fullIndexing input).checked
      evaluateChain fullIndexing answer rest

namespace Algebra

/-- The answer to a query under an input. -/
def evaluate (fullIndexing : Bool) : Algebra → Bag → Evaluation Bag
  | pattern p, input => (p.evaluate fullIndexing input).checked
  | bgp ps, input => evaluateBgp fullIndexing ps input
  | modify modifier inner, input => do
      let answer ← (inner.evaluate fullIndexing (modifier.innerInput input)).checked
      (Evaluation.ofExcept (modifier.apply answer)).checked
  | combine combinator left right, input => do
      let leftInput := combinator.leftInput left right input
      let leftAnswer ← (left.evaluate fullIndexing leftInput).checked
      if combinator.needsLeft && leftAnswer.isEmpty then return .null
      else do
        let rightInput := combinator.rightInput left right input leftAnswer
        let rightAnswer ← (right.evaluate fullIndexing rightInput).checked
        (pure (combinator.apply leftAnswer rightAnswer) : Evaluation Bag).checked

end Algebra

end TripleAlgebra
