/-
# TripleAlgebra.Proofs.Algebra.Difference -- what a difference takes away

A difference keeps a left solution unless the right side has a solution that it shares a
variable with and that is compatible with it (`Bag.mem_minus`).  The second condition alone
would take away too much: two solutions without a common variable are compatible, and a right
side that binds nothing would leave no solution at all.

So where the two sides have no variable in common, nothing is taken away
(`Bag.minus_eq_self`).  For two queries this can be seen from their scopes, whatever the dataset
holds (`outcome_minus_of_disjoint`).  To take away a union is to take away one of its sides and
then the other (`Bag.minus_union`).
-/
import TripleAlgebra.Proofs.Algebra.Outcome
import TripleAlgebra.Proofs.Algebra.Scoping

namespace TripleAlgebra

set_option autoImplicit false

/-! ## Bags -/

namespace Bag

variable {a b : Bag} {s : Solution}

/-- The test of a difference is passed exactly by a solution that disagrees with every solution of
the other bag with which it has a variable in common. -/
theorem passes_minus_iff :
    (!b.solutions.any fun t => s.sharesVariable t && s.compatible t) = true ↔
      ∀ t ∈ b.solutions, ∀ x, s.has x = true → t.has x = true → s.compatible t = false := by
  rw [Bool.not_eq_true', List.any_eq_false]
  constructor
  · intro apart t member x onLeft onRight
    have shared := Solution.sharesVariable_iff.2 ⟨x, onLeft, onRight⟩
    have kept := apart t member
    rw [shared, Bool.true_and] at kept
    exact Bool.eq_false_iff.2 kept
  · intro apart t member taken
    obtain ⟨shared, fits⟩ := Bool.and_eq_true_iff.1 taken
    obtain ⟨x, onLeft, onRight⟩ := Solution.sharesVariable_iff.1 shared
    rw [apart t member x onLeft onRight] at fits
    cases fits

/-- **What stays in a difference** are the left solutions that are compatible with no right
solution that binds one of their variables. -/
theorem mem_minus : s ∈ (a.minus b).solutions ↔ s ∈ a.solutions ∧
    ∀ t ∈ b.solutions, ∀ x, s.has x = true → t.has x = true → s.compatible t = false := by
  rw [solutions_minus, List.mem_filter, passes_minus_iff]

theorem retain_eq_self {keep : Solution → Bool} (all : ∀ s ∈ b.solutions, keep s = true) :
    b.retain keep = b := by
  cases b with
  | identity => exact if_pos (all ∅ (List.mem_singleton.2 rfl))
  | null => rfl
  | regular names l => exact congrArg (regular names) (List.filter_eq_self.2 all)

/-- **Solutions without a common variable take nothing from each other**, although they are
compatible. -/
theorem minus_eq_self
    (apart : ∀ s ∈ a.solutions, ∀ t ∈ b.solutions, ∀ x, s.has x = true → t.has x = false) :
    a.minus b = a := by
  refine retain_eq_self ?_
  intro s inside
  refine passes_minus_iff.2 ?_
  intro t member x onLeft onRight
  rw [apart s inside t member x onLeft] at onRight
  cases onRight

theorem retain_retain (keep keep' : Solution → Bool) (b : Bag) :
    (b.retain keep).retain keep' = b.retain fun s => keep s && keep' s := by
  cases b with
  | identity => cases first : keep ∅ <;> simp [retain, empty, first]
  | null => rfl
  | regular names l =>
      refine congrArg (regular names) ?_
      rw [List.filter_filter]
      exact List.filter_congr fun s _ => Bool.and_comm _ _

/-- **A union is taken away side by side.** -/
theorem minus_union (a b c : Bag) : a.minus (b.union c) = (a.minus b).minus c := by
  unfold minus
  rw [retain_retain]
  congr 1
  funext s
  rw [solutions_union, List.any_append, Bool.not_or]

end Bag

/-! ## Queries -/

namespace Algebra

variable {left right : Algebra} {fullIndexing : Bool} {input m : Bag} {d : Dataset}

/-- **A difference of queries without a common variable has the left side's solutions.** -/
theorem outcome_minus_of_disjoint
    (apart : left.scope.names.disjoint right.scope.names = true)
    (ended : ((combine .minus left right).evaluate fullIndexing input).outcome d = .ok m) :
    ∃ l, (left.evaluate fullIndexing input).outcome d = .ok l ∧ m.solutions = l.solutions := by
  obtain ⟨l, endedLeft, made⟩ := outcome_combine_eq_ok.1 ended
  refine ⟨l, endedLeft, ?_⟩
  split at made
  · rename_i none
    rw [← made, Bag.isEmpty_eq_true_iff.1 none]
    rfl
  · obtain ⟨r, endedRight, rfl⟩ := made
    have onLeft := (ensures_evaluate fullIndexing left _).of_outcome endedLeft
    have onRight := (ensures_evaluate fullIndexing right _).of_outcome endedRight
    refine congrArg Bag.solutions (Bag.minus_eq_self ?_)
    intro s inside t member x bound
    have named := onLeft.bound s inside x bound
    rw [Bool.eq_false_iff]
    intro bound'
    exact NameSet.disjoint_eq_true_iff.1 apart x named (onRight.bound t member x bound')

end Algebra

end TripleAlgebra
