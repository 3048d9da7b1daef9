/-
# TripleAlgebra.Proofs.Algebra.Reordering -- joins in another order

A join evaluates its left child under its own input and its right child under the left
answer, so rearranged joins give their operands other inputs, stop early at other places and
meet other lists on the way.  What remains of that is a nested loop over the left answer and
what the right child means (`solutions_evaluate_join`).

So two joins in a row may be taken from the right as from the left, with the same solutions
in the same order, under every input; and without an input the operands of a join may change
places, which is seen in the order of the solutions only (`join_reorderable`).
-/
import TripleAlgebra.Proofs.Algebra.Refinement
import TripleAlgebra.Proofs.Bag.Pairs

namespace TripleAlgebra

set_option autoImplicit false

namespace Algebra

variable {triples : List Triple} {fullIndexing : Bool} {a b c : Algebra} {input m n : Bag}

/-- A join pairs its left answer with all that its right side means. -/
theorem solutions_evaluate_join (nodup : triples.Nodup)
    (ended : ((combine .join a b).evaluate fullIndexing input).outcome
      (Dataset.listing triples) = .ok m) :
    ∃ l, (a.evaluate fullIndexing input).outcome (Dataset.listing triples) = .ok l ∧
      m.solutions = Bag.nestedLoop l.solutions (b.tolerantMeaning triples) :=
  solutions_evaluate_combine nodup rfl ended

/-- Without an input, exchanged operands make the same pairs. -/
theorem perm_join_comm (nodup : triples.Nodup)
    (ended : ((combine .join a b).evaluate fullIndexing .identity).outcome
      (Dataset.listing triples) = .ok m)
    (exchanged : ((combine .join b a).evaluate fullIndexing .identity).outcome
      (Dataset.listing triples) = .ok n) :
    m.solutions.Perm n.solutions := by
  rw [solutions_evaluate_identity nodup ended, solutions_evaluate_identity nodup exchanged]
  exact Bag.perm_nestedLoop_comm (a.tolerantMeaning triples) (b.tolerantMeaning triples)

/-- Under any input, both ways to take two joins start from the same answer of the first
operand and go through the same triples of solutions. -/
theorem solutions_join_assoc (nodup : triples.Nodup)
    (fromLeft : ((combine .join (combine .join a b) c).evaluate fullIndexing input).outcome
      (Dataset.listing triples) = .ok m)
    (fromRight : ((combine .join a (combine .join b c)).evaluate fullIndexing input).outcome
      (Dataset.listing triples) = .ok n) :
    m.solutions = n.solutions := by
  obtain ⟨inner, onInner, outer⟩ := solutions_evaluate_join nodup fromLeft
  obtain ⟨l, onLeft, pairs⟩ := solutions_evaluate_join nodup onInner
  obtain ⟨l', onLeft', found⟩ := solutions_evaluate_join nodup fromRight
  obtain rfl := Except.ok.inj (onLeft'.symm.trans onLeft)
  calc m.solutions
      = Bag.nestedLoop inner.solutions (c.tolerantMeaning triples) := outer
    _ = Bag.nestedLoop (Bag.nestedLoop l'.solutions (b.tolerantMeaning triples))
          (c.tolerantMeaning triples) := by rw [pairs]
    _ = Bag.nestedLoop l'.solutions
          (Bag.nestedLoop (b.tolerantMeaning triples) (c.tolerantMeaning triples)) :=
        Bag.nestedLoop_assoc ..
    _ = n.solutions := found.symm

/-- **Joins may be reordered.**  Wherever the queries have answers, a join and the join of
its exchanged operands have each solution equally often; and under every input two joins in
a row have one list of solutions, whichever of them is the inner one. -/
theorem join_reorderable (a b c : Algebra) (inserted : List Triple) (fullIndexing : Bool) :
    (∀ (first second : Clock) (m n : Bag),
      ((combine .join a b).answer (Store.ofTriples inserted).dataset ⟨fullIndexing, none⟩ first
        .identity).result = .ok m →
      ((combine .join b a).answer (Store.ofTriples inserted).dataset ⟨fullIndexing, none⟩ second
        .identity).result = .ok n →
      ∀ s, m.solutions.count s = n.solutions.count s) ∧
    ∀ (input : Bag) (first second : Clock) (m n : Bag),
      ((combine .join (combine .join a b) c).answer (Store.ofTriples inserted).dataset
        ⟨fullIndexing, none⟩ first input).result = .ok m →
      ((combine .join a (combine .join b c)).answer (Store.ofTriples inserted).dataset
        ⟨fullIndexing, none⟩ second input).result = .ok n →
      m.solutions = n.solutions := by
  have nodup := nodup_eraseDups inserted
  simp only [Store.dataset_ofTriples, result_answer]
  constructor
  · intro _ _ m n ended exchanged s
    exact (perm_join_comm nodup ended exchanged).count_eq s
  · intro input _ _ m n fromLeft fromRight
    exact solutions_join_assoc nodup fromLeft fromRight

end Algebra

/-! People with their rooms, and rooms with the people in them. -/

namespace Sample

def rooms : Algebra :=
  column "office" "room"

def others : Algebra :=
  .pattern (inOffice "other")

end Sample

/-- Pairs of colleagues are found in another order from the second one's side.  For one
person, the pairs are made in one order with the directory whichever join is the inner one. -/
theorem Algebra.join_reorderable_colleagues :
    ∃ m n k l,
      ((combine .join Sample.rooms Sample.others).answer (Store.ofTriples Sample.facts).dataset
        ⟨true, none⟩ {} .identity).result = .ok m ∧
      ((combine .join Sample.others Sample.rooms).answer (Store.ofTriples Sample.facts).dataset
        ⟨true, none⟩ {} .identity).result = .ok n ∧
      ((combine .join (combine .join Sample.rooms Sample.others) Sample.directory).answer
        (Store.ofTriples Sample.facts).dataset ⟨true, none⟩ {} Sample.bob).result = .ok k ∧
      ((combine .join Sample.rooms (combine .join Sample.others Sample.directory)).answer
        (Store.ofTriples Sample.facts).dataset ⟨true, none⟩ {} Sample.bob).result = .ok l ∧
      m.solutions ≠ n.solutions ∧ (∀ s, m.solutions.count s = n.solutions.count s) ∧
      k.solutions = l.solutions := by
  obtain ⟨commutes, associates⟩ :=
    join_reorderable Sample.rooms Sample.others Sample.directory Sample.facts true
  obtain ⟨m, ended⟩ := answer_of_meaning (combine .join Sample.rooms Sample.others)
    Sample.facts rfl true {} .identity
  obtain ⟨n, exchanged⟩ := answer_of_meaning (combine .join Sample.others Sample.rooms)
    Sample.facts rfl true {} .identity
  obtain ⟨k, fromLeft⟩ := answer_of_meaning
    (combine .join (combine .join Sample.rooms Sample.others) Sample.directory)
    Sample.facts rfl true {} Sample.bob
  obtain ⟨l, fromRight⟩ := answer_of_meaning
    (combine .join Sample.rooms (combine .join Sample.others Sample.directory))
    Sample.facts rfl true {} Sample.bob
  refine ⟨m, n, k, l, ended, exchanged, fromLeft, fromRight, ?_,
    commutes _ _ _ _ ended exchanged, associates _ _ _ _ _ fromLeft fromRight⟩
  rw [solutions_answer_identity ended, solutions_answer_identity exchanged]
  decide

end TripleAlgebra
