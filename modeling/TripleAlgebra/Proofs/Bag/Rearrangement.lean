/-
# TripleAlgebra.Proofs.Bag.Rearrangement -- bags but for the order of their solutions

Two relations between bags.  *Rearranged* bags are of one kind, declare the same names and
hold each solution equally often, in any order (`Bag.Rearranged`).  Bags of *the same
solutions* declare the same names and hold each solution, however often, or both do not
(`Bag.SameSolutions`).

The first is the relation of answers: each operation that does not cut a bag at some place
makes rearranged bags of rearranged ones.  The second is all that an input is looked at for,
since what it fixes does not depend on how often it holds a solution
(`SameSolutions.fixed`).
-/
import TripleAlgebra.Proofs.Bag.HashJoin
import TripleAlgebra.Proofs.Duplicates

namespace TripleAlgebra

set_option autoImplicit false

/-! ## Lists of solutions -/

variable {l m left left' right right' : List Solution}

theorem boundNames_congr (same : ∀ s, s ∈ l ↔ s ∈ m) : boundNames l = boundNames m := by
  refine NameSet.ext_mem ?_
  intro x
  simp only [mem_boundNames, same]

namespace Bag

theorem perm_nestedLoop (onLeft : left.Perm left') (onRight : right.Perm right') :
    (nestedLoop left right).Perm (nestedLoop left' right') :=
  onLeft.flatMap fun s _ => onRight.filterMap s.merge

theorem perm_optionalMatches (accept : Solution → Bool) (onLeft : left.Perm left')
    (onRight : right.Perm right') :
    (optionalMatches accept left right).Perm (optionalMatches accept left' right') := by
  refine onLeft.flatMap ?_
  intro s _
  have merged := (onRight.filterMap s.merge).filter accept
  simp only [merged.isEmpty_eq]
  split
  · exact List.Perm.refl _
  · exact merged

/-! ## Inputs -/

/-- The bags declare the same names and hold the same solutions, each any number of
times. -/
structure SameSolutions (b c : Bag) : Prop where
  names : b.names = c.names
  mem : ∀ s, s ∈ b.solutions ↔ s ∈ c.solutions

namespace SameSolutions

variable {b c : Bag}

/-- What a bag fixes can be told from its names and its solutions. -/
theorem fixed (same : SameSolutions b c) : b.fixed = c.fixed := by
  have none : b.solutions = [] ↔ c.solutions = [] := by
    simp only [List.eq_nil_iff_forall_not_mem, same.mem]
  refine NameSet.ext_mem ?_
  intro x
  simp only [mem_fixed, ne_eq, none, same.names, same.mem]

end SameSolutions

/-! ## Answers -/

/-- The bags are of one kind, declare the same names and hold each solution equally
often. -/
inductive Rearranged : Bag → Bag → Prop where
  | identity : Rearranged .identity .identity
  | null : Rearranged .null .null
  | regular (names : NameSet) {l m : List Solution} (perm : l.Perm m) :
      Rearranged (.regular names l) (.regular names m)

namespace Rearranged

variable {b b' c c' : Bag}

theorem names (same : Rearranged b c) : b.names = c.names := by
  cases same <;> rfl

theorem perm (same : Rearranged b c) : b.solutions.Perm c.solutions := by
  cases same with
  | identity => exact List.Perm.refl _
  | null => exact List.Perm.refl _
  | regular names perm => exact perm

theorem refl (b : Bag) : Rearranged b b := by
  cases b with
  | identity => exact identity
  | null => exact null
  | regular names l => exact regular names (List.Perm.refl l)

theorem symm (same : Rearranged b c) : Rearranged c b := by
  cases same with
  | identity => exact identity
  | null => exact null
  | regular names perm => exact regular names perm.symm

theorem trans (same : Rearranged b c) (next : Rearranged c c') : Rearranged b c' := by
  cases same with
  | identity => exact next
  | null => exact next
  | regular names perm =>
      cases next with
      | regular names perm' => exact regular names (perm.trans perm')

theorem sameSolutions (same : Rearranged b c) : SameSolutions b c :=
  ⟨same.names, fun _ => same.perm.mem_iff⟩

theorem isEmpty (same : Rearranged b c) : b.isEmpty = c.isEmpty :=
  same.perm.isEmpty_eq

theorem ofSolutions (names : NameSet) (perm : l.Perm m) :
    Rearranged (ofSolutions names l) (ofSolutions names m) := by
  unfold Bag.ofSolutions
  rw [boundNames_congr fun _ => perm.mem_iff]
  exact regular _ perm

/-! ### Operations on one bag -/

theorem retain (same : Rearranged b c) (keep : Solution → Bool) :
    Rearranged (b.retain keep) (c.retain keep) := by
  cases same with
  | identity =>
      simp only [Bag.retain]
      split
      · exact identity
      · exact regular _ (List.Perm.refl _)
  | null => exact null
  | regular names perm => exact regular names (perm.filter keep)

theorem distinct (same : Rearranged b c) : Rearranged b.distinct c.distinct := by
  cases same with
  | identity => exact identity
  | null => exact null
  | regular names perm => exact regular names (perm_eraseDups fun _ => perm.mem_iff)

theorem project (same : Rearranged b c) (kept : List String) :
    Rearranged (b.project kept) (c.project kept) := by
  cases same with
  | identity => exact identity
  | null => exact null
  | regular names perm => exact regular _ (perm.map _)

/-! ### Operations on two bags -/

theorem join (onLeft : Rearranged b c) (onRight : Rearranged b' c') :
    Rearranged (b.join b') (c.join c') := by
  cases onLeft with
  | null => exact null
  | identity =>
      cases onRight with
      | identity => exact identity
      | null => exact null
      | regular names perm => exact regular names perm
  | regular names perm =>
      cases onRight with
      | identity => exact regular names perm
      | null => exact null
      | regular names' perm' =>
          rw [join_regular, join_regular]
          exact ofSolutions _ (perm_nestedLoop perm perm')

theorem union (onLeft : Rearranged b c) (onRight : Rearranged b' c') :
    Rearranged (b.union b') (c.union c') := by
  cases onLeft with
  | null => exact onRight
  | identity =>
      cases onRight with
      | null => exact identity
      | identity => exact ofSolutions _ (List.Perm.refl _)
      | regular names perm => exact ofSolutions _ (perm.append_left _)
  | regular names perm =>
      cases onRight with
      | null => exact regular names perm
      | identity => exact ofSolutions _ (perm.append_right _)
      | regular names' perm' => exact ofSolutions _ (perm.append perm')

theorem leftJoin (onLeft : Rearranged b c) (onRight : Rearranged b' c')
    (accept : Solution → Bool) : Rearranged (b.leftJoin b' accept) (c.leftJoin c' accept) := by
  have matched := perm_optionalMatches accept onLeft.perm onRight.perm
  cases onLeft with
  | null => exact null
  | identity =>
      simp only [Bag.leftJoin, onRight.names]
      exact ofSolutions _ matched
  | regular names perm =>
      simp only [Bag.leftJoin, onRight.names]
      exact ofSolutions _ matched

theorem semiJoin (onLeft : Rearranged b c) (onRight : Rearranged b' c') (mustExist : Bool) :
    Rearranged (b.semiJoin b' mustExist) (c.semiJoin c' mustExist) := by
  unfold Bag.semiJoin
  simp only [onRight.perm.any_eq]
  exact onLeft.retain _

theorem minus (onLeft : Rearranged b c) (onRight : Rearranged b' c') :
    Rearranged (b.minus b') (c.minus c') := by
  unfold Bag.minus
  simp only [onRight.perm.any_eq]
  exact onLeft.retain _

end Rearranged

end Bag

end TripleAlgebra
