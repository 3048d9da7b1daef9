/-
# TripleAlgebra.Proofs.Algebra.Reachability -- answers are made by operations on bags

The laws of bags are stated for the bags that operations can make (`Bag.Reachable`), whatever
they were asked to do.  An evaluation makes its answer in no other way: it starts from the
matches of patterns, and each modifier and each combinator is one of the operations
(`Modifier.reachable_apply`, `Combinator.reachable_apply`).  So the laws hold of every answer,
whatever the query, the dataset and the input are (`Algebra.reachable_answer`).
-/
import TripleAlgebra.Proofs.Algebra.Extension
import TripleAlgebra.Proofs.Algebra.Outcome
import TripleAlgebra.Proofs.Algebra.Scoping
import TripleAlgebra.Proofs.Bag.History

namespace TripleAlgebra

set_option autoImplicit false

open Evaluation

variable {b l r m : Bag}

/-! ## Operators -/

/-- What a modifier makes of such a bag is such a bag. -/
theorem Modifier.reachable_apply {modifier : Modifier} (former : b.Reachable)
    (made : modifier.apply b = .ok m) : m.Reachable := by
  cases modifier with
  | extend assignments =>
      rcases Bag.extend_eq_ok made with rfl | rfl
      · exact .null
      · exact .ofSolutions _ _
  | filter condition =>
      obtain rfl := Except.ok.inj made
      exact former.retain_of_pure condition.holds
  | distinct =>
      obtain rfl := Except.ok.inj made
      exact former.distinct
  | project names =>
      obtain rfl := Except.ok.inj made
      exact former.project names
  | slice offset limit =>
      obtain rfl := Except.ok.inj made
      exact former.slice offset limit

/-- So is what a combinator makes of two of them. -/
theorem Combinator.reachable_apply (combinator : Combinator) (onLeft : l.Reachable)
    (onRight : r.Reachable) : (combinator.apply l r).Reachable := by
  cases combinator with
  | join => exact onLeft.join onRight
  | leftJoin filter => exact onLeft.leftJoin_of_pure onRight (Expr.accepts filter)
  | union => exact onLeft.union onRight
  | semiJoin mustExist => exact onLeft.semiJoin onRight mustExist
  | minus => exact onLeft.minus onRight

/-! ## Evaluations -/

theorem Pattern.ensures_reachable (fullIndexing : Bool) (p : Pattern) (input : Bag) :
    (p.evaluate fullIndexing input).Ensures Bag.Reachable := by
  unfold Pattern.evaluate
  split
  · refine (ensures_fetch _).bind ?_
    intro triples _
    split
    · exact Bag.Reachable.null
    · exact Bag.Reachable.identity
  · exact (ensures_matchGivens fullIndexing p _).bind fun l _ => Bag.Reachable.ofSolutions _ l

theorem ensures_reachable_chain (fullIndexing : Bool) (ps : List Pattern) {answer : Bag}
    (former : answer.Reachable) : (evaluateChain fullIndexing answer ps).Ensures Bag.Reachable := by
  induction ps generalizing answer with
  | nil => exact former
  | cons p rest ih =>
      rw [evaluateChain]
      split
      · exact Bag.Reachable.null
      · refine (p.ensures_reachable fullIndexing answer).checked.bind ?_
        intro found matched
        exact (Ensures.pure (former.join matched)).checked.bind fun joined made => ih made

namespace Algebra

theorem ensures_reachable (fullIndexing : Bool) (a : Algebra) (input : Bag) :
    (a.evaluate fullIndexing input).Ensures Bag.Reachable := by
  induction a generalizing input with
  | pattern p => exact (p.ensures_reachable fullIndexing input).checked
  | bgp ps =>
      cases ps with
      | nil => exact Bag.Reachable.identity
      | cons p rest =>
          exact (p.ensures_reachable fullIndexing input).checked.bind fun answer matched =>
            ensures_reachable_chain fullIndexing rest matched
  | modify modifier inner ih =>
      refine (ih _).checked.bind ?_
      intro answer below
      cases made : modifier.apply answer with
      | error e => trivial
      | ok m => exact (Ensures.pure (Modifier.reachable_apply below made)).checked
  | combine combinator left right ihLeft ihRight =>
      refine (ihLeft _).checked.bind ?_
      intro l onLeft
      split
      · exact Bag.Reachable.null
      · refine (ihRight _).checked.bind ?_
        intro r onRight
        exact (Ensures.pure (combinator.reachable_apply onLeft onRight)).checked

/-- **Every answer is a bag that operations can make**, under any deadline and input and over any
dataset.  In particular it declares what it binds. -/
theorem reachable_answer {a : Algebra} {d : Dataset} {config : Config} {clock : Clock}
    {input : Bag} (ended : (a.answer d config clock input).result = .ok m) : m.Reachable :=
  (a.ensures_reachable config.fullIndexing input).of_run ended

end Algebra

end TripleAlgebra
