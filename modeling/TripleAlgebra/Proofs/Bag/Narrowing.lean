/-
# TripleAlgebra.Proofs.Bag.Narrowing -- what a narrowed list of solutions keeps

An evaluation under an input may leave out solutions that no input solution could be
merged with.  `Narrows given l full` says what remains certain of the shorter list
`l`: it has no solution more often than `full`, and for each of the given solutions it
holds everything in `full` that is compatible with it, in the same order.

Every operation on the left of a combinator carries narrowing through
(`Narrows.flatMap`, `Narrows.filter`, `Narrows.append`, `Narrows.eraseDups`), and a
combinator cannot tell a right side narrowed by its own left side from the full one
(`nestedLoop_congr`, `optionalMatches_congr`, `any_compatible_congr`).  Under the one
empty solution nothing is left out (`Narrows.eq`).
-/
import Mathlib.Data.List.Flatten
import Mathlib.Data.List.Perm.Subperm
import TripleAlgebra.Bag.Join
import TripleAlgebra.Proofs.Duplicates
import TripleAlgebra.Proofs.Solution.Order

namespace TripleAlgebra

set_option autoImplicit false

universe u v

/-- A function that makes a list of each element makes no element more often from
fewer elements. -/
theorem subperm_flatMap {α : Type u} {β : Type v} {l full : List α} (fewer : l.Subperm full)
    (f : α → List β) : (l.flatMap f).Subperm (full.flatMap f) := by
  obtain ⟨arranged, perm, sub⟩ := fewer
  exact (perm.flatMap_right f).symm.subperm.trans (sub.flatMap f).subperm

/-- `l` is `full` but for solutions that are incompatible with all given ones. -/
structure Narrows (given l full : List Solution) : Prop where
  subperm : l.Subperm full
  same : ∀ i ∈ given, l.filter i.compatible = full.filter i.compatible

namespace Narrows

variable {given l full l' full' : List Solution}

theorem refl (given l : List Solution) : Narrows given l l :=
  ⟨.refl l, fun _ _ => rfl⟩

/-- Nothing is incompatible with the empty solution, so nothing is left out. -/
theorem eq (narrows : Narrows [∅] l full) : l = full := by
  have same := narrows.same ∅ List.mem_cons_self
  have all : Solution.compatible ∅ = fun _ => true := funext Solution.empty_compatible
  simpa [all] using same

theorem of_identity (narrows : Narrows [∅] l full) (given : List Solution) :
    Narrows given l full := by
  rw [narrows.eq]
  exact refl given full

theorem append (first : Narrows given l full) (second : Narrows given l' full') :
    Narrows given (l ++ l') (full ++ full') := by
  refine ⟨first.subperm.append second.subperm, ?_⟩
  intro i member
  rw [List.filter_append, List.filter_append, first.same i member, second.same i member]

theorem filter (narrows : Narrows given l full) (keep : Solution → Bool) :
    Narrows given (l.filter keep) (full.filter keep) := by
  refine ⟨narrows.subperm.filter keep, ?_⟩
  intro i member
  rw [List.filter_filter, List.filter_filter]
  simp only [Bool.and_comm]
  rw [← List.filter_filter, ← List.filter_filter, narrows.same i member]

theorem eraseDups (narrows : Narrows given l full) :
    Narrows given l.eraseDups full.eraseDups := by
  refine ⟨subperm_eraseDups narrows.subperm.subset, ?_⟩
  intro i member
  rw [filter_eraseDups, filter_eraseDups, narrows.same i member]

/-- What is compatible with a given solution among solutions that extend those of a
list comes from the part of the list that is. -/
theorem filter_flatMap {f : Solution → List Solution}
    (grows : ∀ s, ∀ t ∈ f s, s.PartOf t) (i : Solution) (l : List Solution) :
    (l.flatMap f).filter i.compatible =
      (l.filter i.compatible).flatMap fun s => (f s).filter i.compatible := by
  rw [List.filter_flatMap]
  induction l with
  | nil => rfl
  | cons s rest ih =>
      rw [List.flatMap_cons, ih, List.filter_cons]
      by_cases fits : i.compatible s = true
      · simp [fits]
      · have none : (f s).filter i.compatible = [] := by
          refine List.filter_eq_nil_iff.2 fun t member later => fits ?_
          rw [Solution.compatible_comm] at later ⊢
          exact (grows s t member).compatible later
        simp [fits, none]

/-- Solutions made by extending those of a narrowed list are narrowed alike. -/
theorem flatMap (narrows : Narrows given l full) {f : Solution → List Solution}
    (grows : ∀ s, ∀ t ∈ f s, s.PartOf t) :
    Narrows given (l.flatMap f) (full.flatMap f) := by
  refine ⟨subperm_flatMap narrows.subperm f, ?_⟩
  intro i member
  rw [filter_flatMap grows, filter_flatMap grows, narrows.same i member]

end Narrows

/-! ## The right side of a combinator -/

namespace Bag

variable {left l full : List Solution}

/-- A left solution has the same merges with a right side narrowed by the left. -/
theorem filterMap_merge_congr (narrows : Narrows left l full) {s : Solution} (member : s ∈ left) :
    l.filterMap s.merge = full.filterMap s.merge := by
  rw [Solution.filterMap_merge, Solution.filterMap_merge, narrows.same s member]

theorem nestedLoop_congr (narrows : Narrows left l full) :
    nestedLoop left l = nestedLoop left full :=
  List.flatMap_congr fun _ member => filterMap_merge_congr narrows member

theorem optionalMatches_congr (narrows : Narrows left l full) (accept : Solution → Bool) :
    optionalMatches accept left l = optionalMatches accept left full := by
  refine List.flatMap_congr ?_
  intro s member
  simp only [filterMap_merge_congr narrows member]

/-- A test for a partner that needs a compatible one. -/
theorem any_compatible_congr (narrows : Narrows left l full) {s : Solution} (member : s ∈ left)
    (test : Solution → Bool) :
    (l.any fun t => test t && s.compatible t) = full.any fun t => test t && s.compatible t := by
  have through : ∀ m : List Solution,
      (m.any fun t => test t && s.compatible t) = (m.filter s.compatible).any test := by
    intro m
    simp only [List.any_filter, Bool.and_comm]
  rw [through, through, narrows.same s member]

/-! ## The left side of a combinator -/

theorem partOf_of_mem_merges {right : List Solution} {s t : Solution}
    (member : t ∈ right.filterMap s.merge) : s.PartOf t := by
  obtain ⟨partner, -, merged⟩ := List.mem_filterMap.1 member
  exact Solution.partOf_of_merge merged

theorem narrows_nestedLoop {given : List Solution} (narrows : Narrows given l full)
    (right : List Solution) : Narrows given (nestedLoop l right) (nestedLoop full right) :=
  narrows.flatMap fun _ _ member => partOf_of_mem_merges member

/-- What an optional join makes of one left solution binds all that the solution binds. -/
theorem partOf_of_mem_optionalMatches {accept : Solution → Bool} {right : List Solution}
    {s t : Solution} (member : t ∈ optionalMatches accept [s] right) : s.PartOf t := by
  rw [optionalMatches, List.flatMap_singleton] at member
  dsimp only at member
  split at member
  · rw [List.mem_singleton.1 member]
    exact Solution.PartOf.refl s
  · exact partOf_of_mem_merges (List.mem_filter.1 member).1

theorem narrows_optionalMatches {given : List Solution} (narrows : Narrows given l full)
    (accept : Solution → Bool) (right : List Solution) :
    Narrows given (optionalMatches accept l right) (optionalMatches accept full right) := by
  refine narrows.flatMap ?_
  intro s t member
  have own : t ∈ optionalMatches accept [s] right := by
    rwa [optionalMatches, List.flatMap_singleton]
  exact partOf_of_mem_optionalMatches own

end Bag

end TripleAlgebra
