/-
# TripleAlgebra.Proofs.Algebra.Chain -- a chain of patterns is its patterns joined

A chain goes through its patterns with the answer so far; the patterns joined one after
another from the left (`Algebra.joinAll`) are a tree that is walked from its leftmost leaf.
Both look for an answer without solutions before each further pattern and go on with
`null`: the chain leaves its loop, the tree passes on from join to join
(`evaluateChain_null`).

The tree has more checkpoints than the chain, one for each child of a join, so the two are
compared without them (`untimed`).  Where there is no deadline nothing else is seen of a
run, over any dataset: one that fails in the middle fails both at the same call.
-/
import TripleAlgebra.Proofs.Algebra.Outcome

namespace TripleAlgebra

set_option autoImplicit false

/-! ## Chains -/

theorem evaluateChain_null (fullIndexing : Bool) (ps : List Pattern) :
    evaluateChain fullIndexing .null ps = pure .null := by
  cases ps with
  | nil => rfl
  | cons p rest => rfl

/-- A chain is its first step and then the rest of it. -/
theorem evaluateChain_cons (fullIndexing : Bool) (answer : Bag) (p : Pattern)
    (rest : List Pattern) :
    evaluateChain fullIndexing answer (p :: rest) =
      evaluateChain fullIndexing answer [p] >>= fun joined =>
        evaluateChain fullIndexing joined rest := by
  simp only [evaluateChain]
  split
  · rw [pure_bind, evaluateChain_null]
  · simp only [bind_assoc, pure_bind]

namespace Algebra

open Evaluation

/-! ## Joins -/

/-- The query joined with one pattern after another. -/
def joinAll (a : Algebra) (ps : List Pattern) : Algebra :=
  ps.foldl (fun joined p => .combine .join joined (.pattern p)) a

/-- A join with a pattern is a chain's step. -/
theorem untimed_evaluate_join (a : Algebra) (p : Pattern) (fullIndexing : Bool) (input : Bag) :
    ((combine .join a (pattern p)).evaluate fullIndexing input).untimed =
      (a.evaluate fullIndexing input >>= fun answer =>
        evaluateChain fullIndexing answer [p]).untimed := by
  simp only [evaluate, untimed_bind, untimed_checked]
  refine congrArg _ (funext ?_)
  intro answer
  simp only [evaluateChain, Combinator.needsLeft, Bool.true_and]
  split
  · rfl
  · simp only [untimed_bind, untimed_checked, untimed_pure]
    rfl

/-- The joins after a query are a chain after it. -/
theorem untimed_evaluate_joinAll (a : Algebra) (ps : List Pattern) (fullIndexing : Bool)
    (input : Bag) :
    ((a.joinAll ps).evaluate fullIndexing input).untimed =
      (a.evaluate fullIndexing input >>= fun answer =>
        evaluateChain fullIndexing answer ps).untimed := by
  -- on the patterns, for all trees: each pattern goes over from the chain into the tree
  induction ps generalizing a with
  | nil => exact congrArg untimed (bind_pure _).symm
  | cons p rest ih =>
      calc ((a.joinAll (p :: rest)).evaluate fullIndexing input).untimed
          = ((combine .join a (pattern p)).evaluate fullIndexing input >>= fun answer =>
              evaluateChain fullIndexing answer rest).untimed := ih _
        _ = ((a.evaluate fullIndexing input >>= fun answer =>
              evaluateChain fullIndexing answer [p]) >>= fun joined =>
                evaluateChain fullIndexing joined rest).untimed := by
            rw [untimed_bind, untimed_evaluate_join, ← untimed_bind]
        _ = (a.evaluate fullIndexing input >>= fun answer =>
              evaluateChain fullIndexing answer (p :: rest)).untimed := by
            simp only [bind_assoc, ← evaluateChain_cons]

/-- **A chain of patterns cannot be told from its patterns joined one after another.**
Without a time budget the two have the same answer or the same error, make the same calls in
the same order and leave the same clock behind, over any dataset, under any input and
whichever indexes are in use. -/
theorem bgp_eq_joinAll (p : Pattern) (ps : List Pattern) (d : Dataset) (fullIndexing : Bool)
    (clock : Clock) (input : Bag) :
    (bgp (p :: ps)).answer d ⟨fullIndexing, none⟩ clock input =
      ((pattern p).joinAll ps).answer d ⟨fullIndexing, none⟩ clock input := by
  rw [answer_eq_run, answer_eq_run, ← run_untimed d _ (evaluate _ (bgp _) _),
    ← run_untimed d _ (evaluate _ (joinAll _ _) _), untimed_evaluate_joinAll]
  rfl

end Algebra

end TripleAlgebra
