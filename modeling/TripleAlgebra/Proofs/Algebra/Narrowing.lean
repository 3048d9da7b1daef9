/-
# TripleAlgebra.Proofs.Algebra.Narrowing -- an input leaves out only what it cannot use

The input of an evaluation saves work, and this module says that it does nothing else.
Under every input, what a query returns is its tolerant meaning but for solutions that
are incompatible with all of the input's (`narrows_evaluate`).  The proof is one
induction over the query: a pattern narrows on its input, a modifier and the left side
of a combinator pass narrowing on, and the right side of a combinator is narrowed by the
very answer that it is going to be combined with.

Two answers under different inputs are therefore compared through one list.  The answer
under an input and the answer under none give the same join, optional join and
semi-join with the input, and an optional join has the same solutions whether its right
side was evaluated under the left answer or not (`narrowing_transparent`).
-/
import TripleAlgebra.Proofs.Algebra.Outcome
import TripleAlgebra.Proofs.Algebra.Tolerance
import TripleAlgebra.Proofs.Pattern.Answer

namespace TripleAlgebra

set_option autoImplicit false

variable {triples : List Triple}

/-! ## Chains of patterns -/

/-- A chain carries the narrowing of its start to its end. -/
theorem narrows_foldl_nestedLoop {given l full : List Solution} (narrows : Narrows given l full)
    (ps : List Pattern) :
    Narrows given (ps.foldl (fun found p => Bag.nestedLoop found (p.meaning triples)) l)
      (ps.foldl (fun found p => Bag.nestedLoop found (p.meaning triples)) full) := by
  induction ps generalizing l full with
  | nil => exact narrows
  | cons p rest ih => exact ih (Bag.narrows_nestedLoop narrows _)

theorem foldl_nestedLoop_nil (ps : List Pattern) :
    ps.foldl (fun found p => Bag.nestedLoop found (p.meaning triples)) [] = [] := by
  induction ps with
  | nil => rfl
  | cons p rest ih => exact ih

/-- A chain goes on by joining the answer so far to that of the next pattern under it. -/
theorem outcome_evaluateChain_cons (nodup : triples.Nodup) (fullIndexing : Bool) (p : Pattern)
    (rest : List Pattern) {answer : Bag} (some : ¬ answer.isEmpty = true) :
    (evaluateChain fullIndexing answer (p :: rest)).outcome (Dataset.listing triples) =
      (evaluateChain fullIndexing (answer.join (p.answer triples answer)) rest).outcome
        (Dataset.listing triples) := by
  rw [evaluateChain, if_neg some, Evaluation.outcome_bind, Evaluation.outcome_checked,
    p.outcome_evaluate nodup fullIndexing answer]
  refine (Evaluation.outcome_bind _ _ _).trans ?_
  rw [Evaluation.outcome_checked]
  rfl

/-- A chain starts from the answer of its first pattern. -/
theorem outcome_evaluateBgp_cons (nodup : triples.Nodup) (fullIndexing : Bool) (p : Pattern)
    (rest : List Pattern) (input : Bag) :
    (evaluateBgp fullIndexing (p :: rest) input).outcome (Dataset.listing triples) =
      (evaluateChain fullIndexing (p.answer triples input) rest).outcome
        (Dataset.listing triples) := by
  rw [evaluateBgp, Evaluation.outcome_bind, Evaluation.outcome_checked,
    p.outcome_evaluate nodup fullIndexing input]
  rfl

/-- The rest of a chain always has an answer, and it is that of the nested loops from
the solutions found so far. -/
theorem outcome_evaluateChain (nodup : triples.Nodup) (fullIndexing : Bool) (ps : List Pattern)
    (answer : Bag) :
    ∃ m, (evaluateChain fullIndexing answer ps).outcome (Dataset.listing triples) = .ok m ∧
      m.solutions =
        ps.foldl (fun found p => Bag.nestedLoop found (p.meaning triples)) answer.solutions := by
  induction ps generalizing answer with
  | nil => exact ⟨answer, rfl, rfl⟩
  | cons p rest ih =>
      by_cases done : answer.isEmpty = true
      · have none := Bag.isEmpty_eq_true_iff.1 done
        rw [evaluateChain, if_pos done, none]
        exact ⟨.null, rfl, (foldl_nestedLoop_nil (p :: rest)).symm⟩
      · obtain ⟨m, ended, found⟩ := ih (answer.join (p.answer triples answer))
        refine ⟨m, ?_, ?_⟩
        · rw [outcome_evaluateChain_cons nodup fullIndexing p rest done]
          exact ended
        · rw [found, Bag.solutions_join, Bag.nestedLoop_congr (p.narrows_answer nodup answer)]
          rfl

/-- A chain of patterns always has an answer, narrowed by the input. -/
theorem outcome_evaluateBgp (nodup : triples.Nodup) (fullIndexing : Bool) (ps : List Pattern)
    (input : Bag) :
    ∃ m, (evaluateBgp fullIndexing ps input).outcome (Dataset.listing triples) = .ok m ∧
      Narrows input.solutions m.solutions (bgpMeaning ps triples) := by
  cases ps with
  | nil => exact ⟨.identity, rfl, Narrows.refl _ _⟩
  | cons p rest =>
      obtain ⟨m, ended, found⟩ :=
        outcome_evaluateChain nodup fullIndexing rest (p.answer triples input)
      refine ⟨m, ?_, ?_⟩
      · rw [outcome_evaluateBgp_cons nodup]
        exact ended
      · rw [found, bgpMeaning, List.foldl_cons, Bag.nestedLoop_identity]
        exact narrows_foldl_nestedLoop (p.narrows_answer nodup input) rest

/-! ## Queries -/

namespace Algebra

variable {fullIndexing : Bool} {input m n : Bag}

theorem outcome_pattern (nodup : triples.Nodup) (p : Pattern) :
    ((pattern p).evaluate fullIndexing input).outcome (Dataset.listing triples) =
      .ok (p.answer triples input) := by
  rw [evaluate, Evaluation.outcome_checked]
  exact p.outcome_evaluate nodup fullIndexing input

/-- A combinator that needs its left side is applied to the left answer and to all that the
right side could be narrowed from. -/
theorem solutions_combine {combinator : Combinator} (needed : combinator.needsLeft = true)
    {left right : Algebra} {full : List Solution}
    (narrows : ∀ {input r : Bag},
      (right.evaluate fullIndexing input).outcome (Dataset.listing triples) = .ok r →
        Narrows input.solutions r.solutions full)
    (ended : ((combine combinator left right).evaluate fullIndexing input).outcome
      (Dataset.listing triples) = .ok m) :
    ∃ l, (left.evaluate fullIndexing input).outcome (Dataset.listing triples) = .ok l ∧
      m.solutions = combinator.meaning l.solutions full := by
  obtain ⟨l, onLeft, rest⟩ := outcome_combine_eq_ok.1 ended
  rw [Combinator.leftInput_of_needsLeft needed] at onLeft
  refine ⟨l, onLeft, ?_⟩
  split at rest
  · rename_i skipped
    obtain rfl := rest
    rw [Bag.isEmpty_eq_true_iff.1 (Bool.and_eq_true_iff.1 skipped).2,
      Combinator.meaning_nil needed]
    rfl
  · obtain ⟨r, onRight, rfl⟩ := rest
    have sufficient := Combinator.narrows_of_rightInput needed (narrows onRight)
    rw [Combinator.solutions_apply, Combinator.meaning_congr_right needed sufficient]

/-- **What a query returns under an input is its tolerant meaning, but for solutions
that no solution of the input is compatible with.** -/
theorem narrows_evaluate (nodup : triples.Nodup) {a : Algebra}
    (ended : (a.evaluate fullIndexing input).outcome (Dataset.listing triples) = .ok m) :
    Narrows input.solutions m.solutions (a.tolerantMeaning triples) := by
  induction a generalizing input m with
  | pattern p =>
      obtain rfl := Except.ok.inj ((outcome_pattern nodup p).symm.trans ended)
      exact p.narrows_answer nodup input
  | bgp ps =>
      obtain ⟨answer, found, narrows⟩ := outcome_evaluateBgp nodup fullIndexing ps input
      obtain rfl := Except.ok.inj (found.symm.trans ended)
      exact narrows
  | modify modifier inner ih =>
      obtain ⟨answer, below, applied⟩ := outcome_modify_eq_ok.1 ended
      rw [← Modifier.tolerant_eq_of_apply applied]
      exact Modifier.narrows_tolerant (ih below)
  | combine combinator left right ihLeft ihRight =>
      by_cases needed : combinator.needsLeft = true
      · obtain ⟨l, onLeft, found⟩ := solutions_combine needed ihRight ended
        rw [found]
        exact Combinator.narrows_left needed (ihLeft onLeft) _
      · obtain rfl := Combinator.eq_union_of_needsLeft needed
        obtain ⟨l, onLeft, r, onRight, rfl⟩ := outcome_combine_eq_ok.1 ended
        have narrowsRight :
            Narrows (Combinator.union.leftInput left right input).solutions r.solutions
              (right.tolerantMeaning triples) := ihRight onRight
        rw [Combinator.solutions_apply]
        exact (Combinator.narrows_of_leftInput (ihLeft onLeft)).append
          (Combinator.narrows_of_leftInput narrowsRight)

/-- Without an input a query returns its tolerant meaning. -/
theorem solutions_evaluate_identity (nodup : triples.Nodup) {a : Algebra}
    (ended : (a.evaluate fullIndexing .identity).outcome (Dataset.listing triples) = .ok m) :
    m.solutions = a.tolerantMeaning triples :=
  (narrows_evaluate nodup ended).eq

/-- The same of a query asked of a loaded store. -/
theorem solutions_answer_identity {a : Algebra} {inserted : List Triple} {clock : Clock}
    (ended : (a.answer (Store.ofTriples inserted).dataset ⟨fullIndexing, none⟩ clock
      .identity).result = .ok m) :
    m.solutions = a.tolerantMeaning inserted.eraseDups := by
  rw [Store.dataset_ofTriples, result_answer] at ended
  exact solutions_evaluate_identity (nodup_eraseDups inserted) ended

/-- An answer under an input narrows the answer under none. -/
theorem narrows_evaluate_identity (nodup : triples.Nodup) {a : Algebra}
    (narrowed : (a.evaluate fullIndexing input).outcome (Dataset.listing triples) = .ok m)
    (plain : (a.evaluate fullIndexing .identity).outcome (Dataset.listing triples) = .ok n) :
    Narrows input.solutions m.solutions n.solutions := by
  rw [solutions_evaluate_identity nodup plain]
  exact narrows_evaluate nodup narrowed

/-- A combinator that needs its left side is applied to the left answer and to what its right
side means. -/
theorem solutions_evaluate_combine (nodup : triples.Nodup) {combinator : Combinator}
    (needed : combinator.needsLeft = true) {left right : Algebra}
    (ended : ((combine combinator left right).evaluate fullIndexing input).outcome
      (Dataset.listing triples) = .ok m) :
    ∃ l, (left.evaluate fullIndexing input).outcome (Dataset.listing triples) = .ok l ∧
      m.solutions = combinator.meaning l.solutions (right.tolerantMeaning triples) :=
  solutions_combine needed (narrows_evaluate nodup) ended

/-- An optional join is made of its left answer and either answer of its right side. -/
theorem solutions_evaluate_leftJoin (nodup : triples.Nodup) {left a : Algebra}
    {filter : Option Expr} {outer answer : Bag}
    (onLeft : (left.evaluate fullIndexing outer).outcome (Dataset.listing triples) = .ok input)
    (narrowed : (a.evaluate fullIndexing input).outcome (Dataset.listing triples) = .ok m)
    (ended : ((combine (.leftJoin filter) left a).evaluate fullIndexing outer).outcome
      (Dataset.listing triples) = .ok answer) :
    answer.solutions = (input.leftJoin m (Expr.accepts filter)).solutions := by
  obtain ⟨l, again, found⟩ := solutions_evaluate_combine nodup rfl ended
  obtain rfl := Except.ok.inj (again.symm.trans onLeft)
  rw [found, Bag.solutions_leftJoin, Bag.optionalMatches_congr (narrows_evaluate nodup narrowed)]
  rfl

/-- **Narrowing is transparent.**  An answer under an input has no solution more often
than the answer under none, and the two hold the same solutions, in the same order, for
every solution of the input.  So an operator with the input on its left cannot tell them
apart; nor can an optional join, whichever of the two its own right side is evaluated
to. -/
theorem narrowing_transparent {a : Algebra} {inserted : List Triple} {clock later : Clock}
    (narrowed : (a.answer (Store.ofTriples inserted).dataset ⟨fullIndexing, none⟩ clock
      input).result = .ok m)
    (plain : (a.answer (Store.ofTriples inserted).dataset ⟨fullIndexing, none⟩ later
      .identity).result = .ok n) :
    (∀ s, m.solutions.count s ≤ n.solutions.count s) ∧
    (∀ i ∈ input.solutions,
      m.solutions.filter i.compatible = n.solutions.filter i.compatible) ∧
    (input.join m).solutions = (input.join n).solutions ∧
    (∀ accept, (input.leftJoin m accept).solutions = (input.leftJoin n accept).solutions) ∧
    (∀ mustExist,
      (input.semiJoin m mustExist).solutions = (input.semiJoin n mustExist).solutions) ∧
    ∀ (left : Algebra) (filter : Option Expr) (outer answer : Bag) (first second : Clock),
      (left.answer (Store.ofTriples inserted).dataset ⟨fullIndexing, none⟩ first
        outer).result = .ok input →
      ((combine (.leftJoin filter) left a).answer (Store.ofTriples inserted).dataset
        ⟨fullIndexing, none⟩ second outer).result = .ok answer →
      answer.solutions = (input.leftJoin m (Expr.accepts filter)).solutions ∧
        answer.solutions = (input.leftJoin n (Expr.accepts filter)).solutions := by
  have nodup := nodup_eraseDups inserted
  rw [Store.dataset_ofTriples, result_answer] at narrowed plain
  have narrows := narrows_evaluate_identity nodup narrowed plain
  have optional : ∀ accept,
      (input.leftJoin m accept).solutions = (input.leftJoin n accept).solutions := by
    intro accept
    rw [Bag.solutions_leftJoin, Bag.solutions_leftJoin, Bag.optionalMatches_congr narrows]
  refine ⟨narrows.subperm.count_le, narrows.same, ?_, optional, ?_, ?_⟩
  · rw [Bag.solutions_join, Bag.solutions_join, Bag.nestedLoop_congr narrows]
  · intro mustExist
    have same : Combinator.meaning (.semiJoin mustExist) input.solutions m.solutions =
        Combinator.meaning (.semiJoin mustExist) input.solutions n.solutions :=
      Combinator.meaning_congr_right rfl narrows
    rw [Bag.solutions_semiJoin, Bag.solutions_semiJoin]
    exact same
  · intro left filter outer answer first second onLeft ended
    rw [Store.dataset_ofTriples, result_answer] at onLeft ended
    have made := solutions_evaluate_leftJoin nodup onLeft narrowed ended
    exact ⟨made, made.trans (optional _)⟩

/-- Asked for one person, the first side of the union leaves the other out, and the side
below the slice does not.  The optional join evaluates the union under that person. -/
theorem narrowing_transparent_offices :
    ∃ m n answer,
      (Sample.offices.answer (Store.ofTriples Sample.facts).dataset ⟨true, none⟩ {}
        Sample.bob).result = .ok m ∧
      (Sample.offices.answer (Store.ofTriples Sample.facts).dataset ⟨true, none⟩ {}
        .identity).result = .ok n ∧
      ((combine (.leftJoin none) Sample.second Sample.offices).answer
        (Store.ofTriples Sample.facts).dataset ⟨true, none⟩ {} .identity).result = .ok answer ∧
      m.solutions.length = 2 ∧ n.solutions.length = 3 ∧
      (Sample.bob.join m).solutions = (Sample.bob.join n).solutions ∧
      answer.solutions = (Sample.bob.leftJoin n (Expr.accepts none)).solutions := by
  obtain ⟨m, narrowed, two⟩ : ∃ m,
      (Sample.offices.answer (Store.ofTriples Sample.facts).dataset ⟨true, none⟩ {}
        Sample.bob).result = .ok m ∧ m.solutions.length = 2 := by
    rw [Store.dataset_ofTriples]
    exact ⟨_, rfl, rfl⟩
  obtain ⟨n, plain, three⟩ : ∃ n,
      (Sample.offices.answer (Store.ofTriples Sample.facts).dataset ⟨true, none⟩ {}
        .identity).result = .ok n ∧ n.solutions.length = 3 := by
    rw [Store.dataset_ofTriples]
    exact ⟨_, rfl, rfl⟩
  have onLeft : (Sample.second.answer (Store.ofTriples Sample.facts).dataset ⟨true, none⟩ {}
      .identity).result = .ok Sample.bob := by
    rw [Store.dataset_ofTriples]
    rfl
  obtain ⟨answer, ended⟩ : ∃ answer,
      ((combine (.leftJoin none) Sample.second Sample.offices).answer
        (Store.ofTriples Sample.facts).dataset ⟨true, none⟩ {} .identity).result =
          .ok answer := by
    rw [Store.dataset_ofTriples]
    exact ⟨_, rfl⟩
  obtain ⟨-, -, joined, -, -, optional⟩ := narrowing_transparent narrowed plain
  exact ⟨m, n, answer, narrowed, plain, ended, two, three, joined,
    (optional _ _ _ _ _ _ onLeft ended).2⟩

end Algebra

end TripleAlgebra
