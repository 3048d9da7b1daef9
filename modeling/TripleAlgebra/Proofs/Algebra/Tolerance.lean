/-
# TripleAlgebra.Proofs.Algebra.Tolerance -- a meaning that every query has

A query whose extension would change a binding has no meaning, yet under an input that
leaves the conflicting solutions out it may have an answer.  The tolerant meaning drops
a solution that cannot be extended and is otherwise the meaning, so every query has one,
and it is the meaning where there is one (`tolerantMeaning_eq_of_meaning`).  It is what
answers under different inputs are compared with.

An operator may be given narrowed lists in place of full ones: a modifier passes on the
narrowing of its child (`Modifier.narrows_tolerant`), a combinator that of its left
side (`Combinator.narrows_left`), and with its left side as the input a combinator does
not see the narrowing of the right (`Combinator.meaning_congr_right`).
-/
import TripleAlgebra.Algebra.Meaning
import TripleAlgebra.Proofs.Algebra.Extension
import TripleAlgebra.Proofs.Bag.HashJoin
import TripleAlgebra.Proofs.Bag.Narrowing

namespace TripleAlgebra

set_option autoImplicit false

/-! ## Modifiers -/

namespace Modifier

/-- What a modifier makes of a list of solutions when a conflict costs only the solution
that has it. -/
def tolerant (modifier : Modifier) (l : List Solution) : List Solution :=
  match modifier with
  | extend assignments => l.filterMap (extended? assignments.toList)
  | filter condition => l.filter condition.holds
  | distinct => l.eraseDups
  | project names => l.map (Solution.project names)
  | slice offset none => l.drop offset
  | slice offset (some count) => (l.drop offset).take count

variable {modifier : Modifier} {l full out : List Solution}

theorem tolerant_eq_of_meaning (meant : modifier.meaning l = .ok out) :
    modifier.tolerant l = out := by
  cases modifier with
  | extend assignments => exact extendSolutions_eq_ok meant
  | filter condition => exact Except.ok.inj meant
  | distinct => exact Except.ok.inj meant
  | project names => exact Except.ok.inj meant
  | slice offset limit => cases limit <;> exact Except.ok.inj meant

theorem tolerant_eq_of_apply {b m : Bag} (applied : modifier.apply b = .ok m) :
    modifier.tolerant b.solutions = m.solutions := by
  refine tolerant_eq_of_meaning ?_
  rw [← solutions_apply, applied]
  rfl

/-- A modifier that can do something with a list can do it with a part of the list. -/
theorem apply_isOk_of_subset {b : Bag} (meant : modifier.meaning l = .ok out)
    (part : b.solutions ⊆ l) : ∃ m, modifier.apply b = .ok m := by
  cases modifier with
  | extend assignments =>
      have all := (extendSolutions_isOk_iff assignments.toList 0 l).1 ⟨out, meant⟩
      obtain ⟨extended, found⟩ :=
        (extendSolutions_isOk_iff assignments.toList 0 b.solutions).2
          fun s member => all s (part member)
      cases b with
      | null => exact ⟨_, rfl⟩
      | identity => exact ⟨_, congrArg (Except.map _) found⟩
      | regular names solutions => exact ⟨_, congrArg (Except.map _) found⟩
  | filter condition => exact ⟨_, rfl⟩
  | distinct => exact ⟨_, rfl⟩
  | project names => exact ⟨_, rfl⟩
  | slice offset limit => exact ⟨_, rfl⟩

/-- A modifier's answer is narrowed like its child's.  One that could drop what the
narrowing has left out has its child evaluated without the input. -/
theorem narrows_tolerant {input : Bag}
    (narrows : Narrows (modifier.innerInput input).solutions l full) :
    Narrows input.solutions (modifier.tolerant l) (modifier.tolerant full) := by
  cases modifier with
  | extend assignments =>
      simp only [tolerant, List.filterMap_eq_flatMap_toList]
      refine narrows.flatMap ?_
      intro s t member
      exact partOf_of_extendSolution (extended?_eq_some_iff.1 (Option.mem_toList.1 member))
  | filter condition => exact narrows.filter _
  | distinct => exact narrows.eraseDups
  | project names =>
      obtain rfl := Narrows.eq narrows
      exact Narrows.refl _ _
  | slice offset limit =>
      obtain rfl := Narrows.eq narrows
      exact Narrows.refl _ _

end Modifier

/-! ## Combinators -/

namespace Combinator

theorem solutions_apply (combinator : Combinator) (a b : Bag) :
    (combinator.apply a b).solutions = combinator.meaning a.solutions b.solutions := by
  cases combinator with
  | join => exact Bag.solutions_join a b
  | leftJoin filter => exact Bag.solutions_leftJoin a b _
  | union => exact Bag.solutions_union a b
  | semiJoin mustExist => exact Bag.solutions_semiJoin a b mustExist
  | minus => exact Bag.solutions_minus a b

variable {combinator : Combinator} {given left l full : List Solution}

/-- Only a union can do without its left side. -/
theorem eq_union_of_needsLeft (needless : ¬ combinator.needsLeft = true) : combinator = union := by
  cases combinator with
  | union => rfl
  | join => exact absurd rfl needless
  | leftJoin filter => exact absurd rfl needless
  | semiJoin mustExist => exact absurd rfl needless
  | minus => exact absurd rfl needless

/-- Where a combinator needs its left side it has nothing to do without one. -/
theorem meaning_nil (needed : combinator.needsLeft = true) (right : List Solution) :
    combinator.meaning [] right = [] := by
  cases combinator with
  | union => cases needed
  | join => rfl
  | leftJoin filter => rfl
  | semiJoin mustExist => rfl
  | minus => rfl

theorem narrows_left (needed : combinator.needsLeft = true) (narrows : Narrows given l full)
    (right : List Solution) :
    Narrows given (combinator.meaning l right) (combinator.meaning full right) := by
  cases combinator with
  | union => cases needed
  | join => exact Bag.narrows_nestedLoop narrows right
  | leftJoin filter => exact Bag.narrows_optionalMatches narrows _ right
  | semiJoin mustExist => exact narrows.filter _
  | minus => exact narrows.filter _

/-- A combinator that needs its left side sees of the right side only what is compatible
with the left one. -/
theorem meaning_congr_right (needed : combinator.needsLeft = true)
    (narrows : Narrows left l full) :
    combinator.meaning left l = combinator.meaning left full := by
  cases combinator with
  | union => cases needed
  | join => exact Bag.nestedLoop_congr narrows
  | leftJoin filter => exact Bag.optionalMatches_congr narrows _
  | semiJoin mustExist =>
      refine List.filter_congr ?_
      intro s member
      have same := Bag.any_compatible_congr narrows member fun _ => true
      simp only [Bool.true_and] at same
      exact congrArg (· == mustExist) same
  | minus =>
      refine List.filter_congr ?_
      intro s member
      rw [Bag.any_compatible_congr narrows member]

/-- The right side is evaluated under the left answer or under no input. -/
theorem rightInput_eq (needed : combinator.needsLeft = true) (a b : Algebra) (input answer : Bag) :
    combinator.rightInput a b input answer = answer ∨
      combinator.rightInput a b input answer = .identity := by
  cases combinator with
  | union => cases needed
  | join => exact Or.inl rfl
  | leftJoin filter =>
      simp only [rightInput]
      split
      · exact Or.inl rfl
      · exact Or.inr rfl
  | semiJoin mustExist => exact Or.inl rfl
  | minus => exact Or.inr rfl

/-- Whichever of the two it is, what is found serves the left answer. -/
theorem narrows_of_rightInput (needed : combinator.needsLeft = true) {a b : Algebra}
    {input answer : Bag}
    (narrows : Narrows (combinator.rightInput a b input answer).solutions l full) :
    Narrows answer.solutions l full := by
  rcases rightInput_eq needed a b input answer with own | none
  · rwa [own] at narrows
  · rw [none] at narrows
    exact Narrows.of_identity narrows _

/-- The left child is evaluated under the input or under none. -/
theorem narrows_of_leftInput {a b : Algebra} {input : Bag}
    (narrows : Narrows (combinator.leftInput a b input).solutions l full) :
    Narrows input.solutions l full := by
  cases combinator with
  | union =>
      simp only [leftInput] at narrows
      split at narrows
      · exact Narrows.of_identity narrows _
      · exact narrows
  | join => exact narrows
  | leftJoin filter => exact narrows
  | semiJoin mustExist => exact narrows
  | minus => exact narrows

end Combinator

/-! ## Queries -/

namespace Algebra

/-- The meaning of a query when an extension drops the solutions that it cannot
extend. -/
def tolerantMeaning (triples : List Triple) : Algebra → List Solution
  | pattern p => p.meaning triples
  | bgp ps => bgpMeaning ps triples
  | modify modifier inner => modifier.tolerant (inner.tolerantMeaning triples)
  | combine combinator left right =>
      combinator.meaning (left.tolerantMeaning triples) (right.tolerantMeaning triples)

variable {triples : List Triple} {l : List Solution}

theorem meaning_modify_eq_ok {modifier : Modifier} {inner : Algebra} :
    (modify modifier inner).meaning triples = .ok l ↔
      ∃ found, inner.meaning triples = .ok found ∧ modifier.meaning found = .ok l := by
  rw [meaning]
  exact bind_eq_ok_iff

theorem meaning_combine_eq_ok {combinator : Combinator} {left right : Algebra} :
    (combine combinator left right).meaning triples = .ok l ↔
      ∃ a b, left.meaning triples = .ok a ∧ right.meaning triples = .ok b ∧
        combinator.meaning a b = l := by
  rw [meaning, bind_eq_ok_iff]
  constructor
  · rintro ⟨a, onLeft, rest⟩
    obtain ⟨b, onRight, here⟩ := bind_eq_ok_iff.1 rest
    exact ⟨a, b, onLeft, onRight, Except.ok.inj here⟩
  · rintro ⟨a, b, onLeft, onRight, here⟩
    exact ⟨a, onLeft, bind_eq_ok_iff.2 ⟨b, onRight, congrArg Except.ok here⟩⟩

/-- Where a query has a meaning the tolerant one is the same. -/
theorem tolerantMeaning_eq_of_meaning {a : Algebra} (meant : a.meaning triples = .ok l) :
    a.tolerantMeaning triples = l := by
  induction a generalizing l with
  | pattern p => exact Except.ok.inj meant
  | bgp ps => exact Except.ok.inj meant
  | modify modifier inner ih =>
      obtain ⟨found, below, here⟩ := meaning_modify_eq_ok.1 meant
      rw [tolerantMeaning, ih below]
      exact Modifier.tolerant_eq_of_meaning here
  | combine combinator left right ihLeft ihRight =>
      obtain ⟨a, b, onLeft, onRight, here⟩ := meaning_combine_eq_ok.1 meant
      rw [tolerantMeaning, ihLeft onLeft, ihRight onRight, here]

end Algebra

end TripleAlgebra
