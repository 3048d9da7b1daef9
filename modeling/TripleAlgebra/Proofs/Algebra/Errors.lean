/-
# TripleAlgebra.Proofs.Algebra.Errors -- the errors that a query can end with

A query itself gives up for two reasons: a dataset has answered a scan with a triple that
lacks the key, or an assignment would change a binding (`EvaluationError.IsIntrinsic`).
Everything else that can end a run comes from outside, a dataset that does not answer or a
deadline that has passed.  In particular an outcome, which knows no deadline, is never a
timeout (`Algebra.outcome_ne_timeout`).
-/
import TripleAlgebra.Proofs.Algebra.Extension
import TripleAlgebra.Proofs.Algebra.Outcome
import TripleAlgebra.Proofs.Evaluation.Faults

namespace TripleAlgebra

set_option autoImplicit false

/-- The error is a query's own: a broken contract or a conflict. -/
def EvaluationError.IsIntrinsic : EvaluationError → Prop
  | contract _ _ => True
  | rebinding _ _ => True
  | timeout _ _ => False
  | dataset _ => False

open Evaluation

/-! ## Patterns -/

theorem Access.isIntrinsic_of_violation? {access : Access} {triples : List Triple}
    {e : EvaluationError} (broken : access.violation? triples = some e) : e.IsIntrinsic := by
  obtain ⟨text, rfl⟩ := eq_contract_of_violation? broken
  trivial

theorem Request.raises_fetch (r : Request) : r.fetch.Raises EvaluationError.IsIntrinsic := by
  cases r with
  | scan access =>
      intro triples
      dsimp only
      cases broken : access.violation? triples with
      | none => trivial
      | some e => exact Access.isIntrinsic_of_violation? broken
  | exactly s p o =>
      rw [fetch]
      cases Triple.ofTerms s p o with
      | ok t => exact fun present => trivial
      | error cause => trivial

namespace Pattern

theorem raises_matchGivens (fullIndexing : Bool) (p : Pattern) (givens : List Solution) :
    (p.matchGivens fullIndexing givens).Raises EvaluationError.IsIntrinsic := by
  induction givens with
  | nil => exact Raises.pure _
  | cons given rest ih =>
      have first : (p.matchGiven fullIndexing given).Raises EvaluationError.IsIntrinsic :=
        (Request.raises_fetch _).bind fun triples => Raises.pure _
      exact first.bind fun found => ih.bind fun others => Raises.pure _

theorem raises_evaluate (fullIndexing : Bool) (p : Pattern) (input : Bag) :
    (p.evaluate fullIndexing input).Raises EvaluationError.IsIntrinsic := by
  unfold evaluate
  split
  · exact (Request.raises_fetch _).bind fun triples => Raises.pure _
  · exact (p.raises_matchGivens fullIndexing _).bind fun found => Raises.pure _

end Pattern

theorem raises_evaluateChain (fullIndexing : Bool) (ps : List Pattern) (answer : Bag) :
    (evaluateChain fullIndexing answer ps).Raises EvaluationError.IsIntrinsic := by
  induction ps generalizing answer with
  | nil => exact Raises.pure _
  | cons p rest ih =>
      rw [evaluateChain]
      split
      · exact Raises.pure _
      · refine (p.raises_evaluate fullIndexing answer).checked.bind ?_
        intro found
        exact (Raises.pure _).checked.bind ih

/-! ## Queries -/

namespace Algebra

/-- **A query fails on its own account by a broken contract or a conflict only.** -/
theorem raises_evaluate (fullIndexing : Bool) (a : Algebra) (input : Bag) :
    (a.evaluate fullIndexing input).Raises EvaluationError.IsIntrinsic := by
  induction a generalizing input with
  | pattern p => exact (p.raises_evaluate fullIndexing input).checked
  | bgp ps =>
      cases ps with
      | nil => exact Raises.pure _
      | cons p rest =>
          exact (p.raises_evaluate fullIndexing input).checked.bind fun answer =>
            raises_evaluateChain fullIndexing rest answer
  | modify modifier inner ih =>
      refine (ih _).checked.bind ?_
      intro answer
      have applied : (ofExcept (modifier.apply answer)).Raises EvaluationError.IsIntrinsic := by
        cases outcome : modifier.apply answer with
        | ok m => trivial
        | error e =>
            obtain ⟨name, index, rfl⟩ := Modifier.rebinding_of_apply outcome
            trivial
      exact applied.checked
  | combine combinator left right ihLeft ihRight =>
      refine (ihLeft _).checked.bind ?_
      intro l
      split
      · exact Raises.pure _
      · refine (ihRight _).checked.bind ?_
        intro r
        exact (Raises.pure _).checked

/-- What a query comes to is never a timeout. -/
theorem outcome_ne_timeout (a : Algebra) (fullIndexing : Bool) (input : Bag) (d : Dataset)
    (limit elapsed : Nat) :
    (a.evaluate fullIndexing input).outcome d ≠ .error (.timeout limit elapsed) := by
  intro ended
  rcases (a.raises_evaluate fullIndexing input).of_outcome ended with own | ⟨cause, foreign⟩
  · exact own
  · cases foreign

end Algebra

end TripleAlgebra
