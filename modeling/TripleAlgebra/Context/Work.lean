/-
# TripleAlgebra.Context.Work -- a query worked out in a context

Work in a context ends with a value or an error, and either way leaves the context as it has made
it.  The input is part of the context: a node that wants a child evaluated under another input puts
that one in place, and the former one back when the child has ended (`Work.under`).  Patterns take
the input that they find.
-/
import TripleAlgebra.Context

namespace TripleAlgebra

set_option autoImplicit false

/-- Something to do in a context, which may fail. -/
abbrev Work : Type → Type := ExceptT EvaluationError (StateM Context)

namespace Work

variable {α : Type}

/-- The current input. -/
def input : Work Bag := fun c => (.ok c.input, c)

/-- Look at the deadline. -/
def check : Work Unit := fun c => c.check

/-- The solutions of a pattern under the current input. -/
def matching (p : Pattern) : Work Bag := fun c => c.matchPattern p

/-- Do some work under another input and put the former one back. -/
def under (input : Bag) (work : Work α) : Work α := fun c => c.withInput input work

/-- Do some work and look at the deadline. -/
def checked (work : Work α) : Work α := do
  let a ← work
  check
  return a

/-- The value of a step that does not look at the context, or its error. -/
def step (made : Except EvaluationError α) : Work α := fun c => (made, c)

end Work

/-! ## Chains of patterns -/

/-- The rest of a chain after an answer, which is the input of the next pattern. -/
def workChain : Bag → List Pattern → Work Bag
  | answer, [] => return answer
  | answer, p :: rest =>
      if answer.isEmpty then return .null
      else do
        let found ← (Work.under answer (Work.matching p)).checked
        let joined ← (pure (answer.join found) : Work Bag).checked
        workChain joined rest

/-- A chain of patterns, of which the first takes the input that it finds. -/
def workBgp : List Pattern → Work Bag
  | [] => return .identity
  | p :: rest => do
      let answer ← (Work.matching p).checked
      workChain answer rest

/-! ## Children -/

/-- Work on a modifier's child: under `identity` below a projection or a slice, and else under the
input that is there. -/
def Modifier.onInner (modifier : Modifier) (work : Work Bag) : Work Bag :=
  match modifier with
  | project _ => .under .identity work
  | slice _ _ => .under .identity work
  | _ => work

/-- Work on a combinator's left child: under an input of its own for a union, and else under the
input that is there. -/
def Combinator.onLeft (combinator : Combinator) (left right : Algebra) (work : Work Bag) :
    Work Bag :=
  match combinator with
  | union => do
      let input ← Work.input
      .under (Combinator.union.leftInput left right input) work
  | _ => work

/-- Work on a combinator's right child, given the left one's answer and the input from further out,
and put the answers together.  Where the left answer is needed and empty no work is done. -/
def Combinator.onRight (combinator : Combinator) (left right : Algebra) (outer leftAnswer : Bag)
    (work : Work Bag) : Work Bag :=
  if combinator.needsLeft && leftAnswer.isEmpty then return .null
  else do
    let rightInput := combinator.rightInput left right outer leftAnswer
    let rightAnswer ← (Work.under rightInput work).checked
    (pure (combinator.apply leftAnswer rightAnswer) : Work Bag).checked

/-! ## Queries -/

namespace Algebra

/-- Work out the answer to a query under the current input. -/
def work : Algebra → Work Bag
  | pattern p => (Work.matching p).checked
  | bgp ps => workBgp ps
  | modify modifier inner => do
      let answer ← (modifier.onInner inner.work).checked
      (Work.step (modifier.apply answer)).checked
  | combine combinator left right => do
      let outer ← Work.input
      let leftAnswer ← (combinator.onLeft left right left.work).checked
      combinator.onRight left right outer leftAnswer right.work

end Algebra

end TripleAlgebra
