/-
# TripleAlgebra.Proofs.Bag.Pairs -- trying all pairs in another order

The nested loop over two lists of solutions, taken as an operation.  It is associative as
it stands, with its order (`nestedLoop_assoc`), since merging is; and it is commutative but
for its order (`perm_nestedLoop_comm`).  Without repetition on both sides, and with the same
names bound throughout each of them, it has no repetition either (`nodup_nestedLoop`),
because a pair can be read off its merge.
-/
import Mathlib.Data.List.Nodup
import Mathlib.Data.List.Perm.Basic
import TripleAlgebra.Proofs.Bag.HashJoin
import TripleAlgebra.Proofs.Solution.Merge

namespace TripleAlgebra.Bag

set_option autoImplicit false

variable {left right : List Solution}

/-! ## Three lists -/

/-- The merges of one solution with all pairs of two lists, from either end. -/
theorem flatMap_filterMap_merge (s : Solution) (middle right : List Solution) :
    (middle.filterMap s.merge).flatMap (fun t => right.filterMap t.merge) =
      (nestedLoop middle right).filterMap s.merge := by
  induction middle with
  | nil => rfl
  | cons b rest ih =>
      have inner : (right.filterMap b.merge).filterMap s.merge =
          right.filterMap fun c => (s.merge b).bind fun t => t.merge c := by
        rw [List.filterMap_filterMap]
        exact List.filterMap_congr fun c _ => (Solution.merge_assoc s b c).symm
      rw [nestedLoop, List.flatMap_cons, List.filterMap_append, inner]
      cases merged : s.merge b with
      | none =>
          rw [List.filterMap_cons_none merged, ih]
          simp [nestedLoop]
      | some t =>
          rw [List.filterMap_cons_some merged, List.flatMap_cons, ih]
          rfl

/-- **Three lists are joined from the left as from the right**, in one order. -/
theorem nestedLoop_assoc (left middle right : List Solution) :
    nestedLoop (nestedLoop left middle) right = nestedLoop left (nestedLoop middle right) := by
  show (left.flatMap fun s => middle.filterMap s.merge).flatMap _ = _
  rw [List.flatMap_assoc]
  exact List.flatMap_congr fun s _ => flatMap_filterMap_merge s middle right

/-! ## Two lists -/

theorem nestedLoop_append (left left' right : List Solution) :
    nestedLoop (left ++ left') right = nestedLoop left right ++ nestedLoop left' right :=
  List.flatMap_append

/-- **Which list comes first is seen in the order of the pairs only.** -/
theorem perm_nestedLoop_comm (left right : List Solution) :
    (nestedLoop left right).Perm (nestedLoop right left) := by
  induction left with
  | nil =>
      rw [nestedLoop_nil_right]
      exact List.Perm.refl _
  | cons s rest ih =>
      -- on the right, the pairs with `s` are spread over the list; gather them in front
      have spread : nestedLoop right (s :: rest) =
          right.flatMap fun t => (s.merge t).toList ++ rest.filterMap t.merge := by
        refine List.flatMap_congr ?_
        intro t _
        rw [Solution.merge_comm s t, List.filterMap_cons]
        cases t.merge s <;> rfl
      have gathered : right.filterMap s.merge = right.flatMap fun t => (s.merge t).toList :=
        List.filterMap_eq_flatMap_toList _ _
      rw [spread]
      calc nestedLoop (s :: rest) right
          = right.filterMap s.merge ++ nestedLoop rest right := List.flatMap_cons
        _ = (right.flatMap fun t => (s.merge t).toList) ++ nestedLoop rest right := by
            rw [gathered]
        List.Perm _ ((right.flatMap fun t => (s.merge t).toList) ++ nestedLoop right rest) :=
          ih.append_left _
        List.Perm _ _ := List.flatMap_append_perm _ _ _

/-! ## Repetition -/

/-- All solutions of the list bind the same names. -/
def SameDomain (l : List Solution) : Prop :=
  ∀ s ∈ l, ∀ t ∈ l, ∀ x, s.has x = t.has x

theorem sameDomain_of_iff {l : List Solution} {bound : String → Prop}
    (domain : ∀ s ∈ l, ∀ x, s.has x = true ↔ bound x) : SameDomain l := by
  intro s inS t inT x
  rw [Bool.eq_iff_iff, domain s inS, domain t inT]

/-- A pair can be read off its merge, so no merge comes twice. -/
theorem nodup_nestedLoop (onLeft : left.Nodup) (onRight : right.Nodup)
    (leftDomain : SameDomain left) (rightDomain : SameDomain right) :
    (nestedLoop left right).Nodup := by
  unfold nestedLoop
  rw [List.nodup_flatMap]
  constructor
  · intro s _
    rw [Solution.filterMap_merge]
    refine (onRight.filter _).map_on ?_
    intro t inT u inU same
    obtain ⟨memberT, fitsT⟩ := List.mem_filter.1 inT
    obtain ⟨memberU, fitsU⟩ := List.mem_filter.1 inU
    have partT := Solution.partOf_of_merge_right (Solution.merge_eq_some_iff.2 ⟨fitsT, same⟩)
    have partU := Solution.partOf_of_merge_right (Solution.merge_eq_some_iff.2 ⟨fitsU, rfl⟩)
    exact partT.eq_of_has partU (rightDomain t memberT u memberU)
  · refine onLeft.imp_of_mem ?_
    intro s t inS inT different m fromS fromT
    obtain ⟨u, -, mergedS⟩ := List.mem_filterMap.1 fromS
    obtain ⟨v, -, mergedT⟩ := List.mem_filterMap.1 fromT
    exact different ((Solution.partOf_of_merge mergedS).eq_of_has
      (Solution.partOf_of_merge mergedT) (leftDomain s inS t inT))

end TripleAlgebra.Bag
