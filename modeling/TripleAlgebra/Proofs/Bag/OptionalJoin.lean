/-
# TripleAlgebra.Proofs.Bag.OptionalJoin -- a join, and what is left over

An optional join goes through its left solutions by itself and notices those of which it has made
nothing.  It comes to the same as to join the two bags, keep what is accepted and put beside it
the left solutions without an accepted merge (`perm_optionalMatches_split`): the two differ in
order only.  Each left solution leaves a trace (`exists_partOf_mem_optionalMatches`), so an optional
join is never shorter than its left side.

One left solution has nothing to do with another.  An optional join therefore distributes over a
union on its left as it stands (`union_leftJoin`), also where a side of the union is `null`.
-/
import Mathlib.Data.List.Perm.Basic
import TripleAlgebra.Proofs.Bag.HashJoin
import TripleAlgebra.Proofs.Bag.Narrowing

namespace TripleAlgebra.Bag

set_option autoImplicit false

variable {accept : Solution → Bool} {left left' right : List Solution}

/-- The left solutions of which no merge is accepted. -/
def unmatched (accept : Solution → Bool) (left right : List Solution) : List Solution :=
  left.filter fun s => !right.any fun t => (s.merge t).any accept

/-! ## One left solution -/

theorem isEmpty_filter_merges (accept : Solution → Bool) (s : Solution) (right : List Solution) :
    ((right.filterMap s.merge).filter accept).isEmpty =
      !right.any fun t => (s.merge t).any accept := by
  rw [Bool.eq_iff_iff, List.isEmpty_iff, List.filter_eq_nil_iff, Bool.not_eq_true',
    List.any_eq_false]
  simp only [List.mem_filterMap, Option.any_eq_true]
  constructor
  · rintro refused t inside ⟨m, merged, accepted⟩
    exact refused m ⟨t, inside, merged⟩ accepted
  · rintro refused m ⟨t, inside, merged⟩ accepted
    exact refused t inside ⟨m, merged, accepted⟩

/-- A solution without an accepted merge stays, any other gives way to its accepted merges. -/
theorem optionalMatches_singleton (accept : Solution → Bool) (s : Solution)
    (right : List Solution) :
    optionalMatches accept [s] right =
      if right.any fun t => (s.merge t).any accept then (right.filterMap s.merge).filter accept
      else [s] := by
  rw [optionalMatches, List.flatMap_singleton]
  simp only [isEmpty_filter_merges]
  cases right.any fun t => (s.merge t).any accept <;> rfl

theorem optionalMatches_append (accept : Solution → Bool) (left left' right : List Solution) :
    optionalMatches accept (left ++ left') right =
      optionalMatches accept left right ++ optionalMatches accept left' right :=
  List.flatMap_append

/-- The first left solution is seen to before the others. -/
theorem optionalMatches_cons (accept : Solution → Bool) (s : Solution)
    (rest right : List Solution) :
    optionalMatches accept (s :: rest) right =
      optionalMatches accept [s] right ++ optionalMatches accept rest right :=
  optionalMatches_append accept [s] rest right

/-- A left solution is never lost. -/
theorem optionalMatches_singleton_ne_nil (accept : Solution → Bool) (s : Solution)
    (right : List Solution) : optionalMatches accept [s] right ≠ [] := by
  rw [optionalMatches_singleton]
  split
  · rename_i matched
    rw [Ne, ← List.isEmpty_iff, isEmpty_filter_merges, matched]
    exact Bool.false_ne_true
  · exact List.cons_ne_nil s []

/-! ## All left solutions -/

/-- **The accepted merges and the left solutions without any** make an optional join. -/
theorem perm_optionalMatches_split (accept : Solution → Bool) (left right : List Solution) :
    (optionalMatches accept left right).Perm
      ((nestedLoop left right).filter accept ++ unmatched accept left right) := by
  induction left with
  | nil => exact List.Perm.refl _
  | cons s rest ih =>
      have pairs : (nestedLoop (s :: rest) right).filter accept =
          (right.filterMap s.merge).filter accept ++ (nestedLoop rest right).filter accept :=
        List.filter_append ..
      rw [optionalMatches_cons, pairs, optionalMatches_singleton]
      -- `s` adds to one of the two lists only, but for the second it stands in the wrong place
      by_cases matched : (right.any fun t => (s.merge t).any accept) = true
      · have others : unmatched accept (s :: rest) right = unmatched accept rest right :=
          List.filter_cons_of_neg (by simp [matched])
        rw [if_pos matched, others, List.append_assoc]
        exact ih.append_left _
      · have alone : unmatched accept (s :: rest) right = s :: unmatched accept rest right :=
          List.filter_cons_of_pos (by simp [matched])
        have refused : (right.filterMap s.merge).filter accept = [] := by
          rw [← List.isEmpty_iff, isEmpty_filter_merges, Bool.eq_false_iff.2 matched]
          rfl
        rw [if_neg matched, alone, refused]
        exact (ih.cons s).trans List.perm_middle.symm

theorem length_le_optionalMatches (accept : Solution → Bool) (left right : List Solution) :
    left.length ≤ (optionalMatches accept left right).length := by
  induction left with
  | nil => exact Nat.le_refl _
  | cons s rest ih =>
      have one := List.length_pos_iff.2 (optionalMatches_singleton_ne_nil accept s right)
      rw [optionalMatches_cons, List.length_append, List.length_cons]
      omega

/-- Something in an optional join extends each left solution. -/
theorem exists_partOf_mem_optionalMatches (accept : Solution → Bool) (right : List Solution)
    {s : Solution} (inside : s ∈ left) : ∃ t ∈ optionalMatches accept left right, s.PartOf t := by
  obtain ⟨t, own⟩ :=
    List.exists_mem_of_ne_nil _ (optionalMatches_singleton_ne_nil accept s right)
  obtain ⟨before, after, rfl⟩ := List.append_of_mem inside
  refine ⟨t, ?_, partOf_of_mem_optionalMatches own⟩
  rw [optionalMatches_append, optionalMatches_cons]
  exact List.mem_append_right _ (List.mem_append_left _ own)

/-- Every name that a left solution binds is bound in the optional join. -/
theorem boundNames_union_optionalMatches (accept : Solution → Bool) (left right : List Solution) :
    boundNames left ∪ boundNames (optionalMatches accept left right) =
      boundNames (optionalMatches accept left right) := by
  refine NameSet.ext_mem ?_
  intro x
  rw [NameSet.mem_union]
  refine or_iff_right_of_imp ?_
  intro bound
  obtain ⟨s, inside, key⟩ := mem_boundNames.1 bound
  obtain ⟨t, made, part⟩ := exists_partOf_mem_optionalMatches accept right inside
  have still := part.has (Bindings.has_eq_true_iff.2 key)
  exact mem_boundNames.2 ⟨t, made, Bindings.has_eq_true_iff.1 still⟩

/-! ## Bags -/

/-- **An optional join distributes over a union on its left**, with the same kind, names and
order. -/
theorem union_leftJoin (a a' b : Bag) (accept : Solution → Bool) :
    (a.union a').leftJoin b accept = (a.leftJoin b accept).union (a'.leftJoin b accept) := by
  by_cases noFirst : a = null
  · rw [noFirst, null_union]
    rfl
  by_cases noSecond : a' = null
  · rw [noSecond, union_null]
    exact (union_null _).symm
  rw [union_of_ne_null noFirst noSecond, leftJoin_of_ne_null (ofSolutions_ne_null _ _),
    leftJoin_of_ne_null noFirst, leftJoin_of_ne_null noSecond,
    union_of_ne_null (ofSolutions_ne_null _ _) (ofSolutions_ne_null _ _)]
  simp only [solutions_ofSolutions, names_ofSolutions, optionalMatches_append]
  refine congrArg (regular · _) (NameSet.ext_mem ?_)
  intro x
  have first := congrArg (x ∈ ·) (boundNames_union_optionalMatches accept a.solutions b.solutions)
  have second :=
    congrArg (x ∈ ·) (boundNames_union_optionalMatches accept a'.solutions b.solutions)
  simp only [NameSet.mem_union, boundNames_append, eq_iff_iff] at first second ⊢
  grind

/-- **An optional join is a join and what it leaves over.**  It has each solution as often as the
accepted part of the join and the left solutions without an accepted merge have it together; it
has as many solutions as its left side or more; and over a union on its left it distributes, order
and declared names included. -/
theorem leftJoin_decomposes (a a' b : Bag) (accept : Solution → Bool) :
    (a.leftJoin b accept).solutions.Perm
        (((a.join b).retain accept).solutions ++ unmatched accept a.solutions b.solutions) ∧
      a.length ≤ (a.leftJoin b accept).length ∧
      (a.union a').leftJoin b accept = (a.leftJoin b accept).union (a'.leftJoin b accept) := by
  rw [length, length, solutions_leftJoin, solutions_retain, solutions_join]
  exact ⟨perm_optionalMatches_split accept a.solutions b.solutions,
    length_le_optionalMatches accept a.solutions b.solutions, union_leftJoin a a' b accept⟩

end TripleAlgebra.Bag
