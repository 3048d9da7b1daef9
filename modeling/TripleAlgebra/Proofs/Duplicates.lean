/-
# TripleAlgebra.Proofs.Duplicates -- the first occurrences in a list

`List.eraseDups` keeps the first occurrence of every element.  It is what `distinct`
does to solutions, what the inserts of a store do to triples, and how a pattern lists
the combinations to ask for.  What remains has no repetition (`nodup_eraseDups`), is
determined by the members of the list but for its order (`perm_eraseDups`), grows with them
(`subperm_eraseDups`), does not change when filtered before or after (`filter_eraseDups`), and
grows at its end exactly by what is new (`eraseDups_concat`).  Its order is that in which the
members occurred first (`pairwise_idxOf_eraseDups`).

The recursion is on the tail without the head's other occurrences, so the first proofs here
descend by length.  Once filtering is known to commute, the tail itself can be recursed on
(`eraseDups_cons_filter`).
-/
import Mathlib.Data.List.Nodup
import Mathlib.Data.List.Perm.Subperm

namespace TripleAlgebra

set_option autoImplicit false

universe u

variable {α : Type u} [DecidableEq α]

omit [DecidableEq α] in
theorem length_filter_lt_cons (keep : α → Bool) (a : α) (rest : List α) :
    (rest.filter keep).length < (a :: rest).length := by
  have := List.length_filter_le keep rest
  rw [List.length_cons]
  omega

theorem nodup_eraseDups : ∀ l : List α, l.eraseDups.Nodup
  | [] => List.nodup_nil
  | a :: rest => by
      rw [List.eraseDups_cons, List.nodup_cons]
      refine ⟨?_, nodup_eraseDups _⟩
      intro member
      simp [List.mem_eraseDups] at member
termination_by l => l.length
decreasing_by exact length_filter_lt_cons _ _ _

/-- Lists with the same members differ in the order of their first occurrences only. -/
theorem perm_eraseDups {l m : List α} (same : ∀ a, a ∈ l ↔ a ∈ m) :
    l.eraseDups.Perm m.eraseDups := by
  refine (List.perm_ext_iff_of_nodup (nodup_eraseDups l) (nodup_eraseDups m)).2 ?_
  intro a
  rw [List.mem_eraseDups, List.mem_eraseDups]
  exact same a

/-- A list with more members has more first occurrences. -/
theorem subperm_eraseDups {l m : List α} (fewer : l ⊆ m) : l.eraseDups.Subperm m.eraseDups := by
  refine (nodup_eraseDups l).subperm ?_
  intro a member
  rw [List.mem_eraseDups] at member ⊢
  exact fewer member

/-- An element is kept or dropped by a filter before its duplicates are erased as
after. -/
theorem filter_eraseDups (keep : α → Bool) :
    ∀ l : List α, l.eraseDups.filter keep = (l.filter keep).eraseDups
  | [] => rfl
  | a :: rest => by
      rw [List.eraseDups_cons, List.filter_cons, List.filter_cons, filter_eraseDups keep,
        List.filter_filter]
      by_cases kept : keep a = true
      · simp only [kept, if_true, List.eraseDups_cons, List.filter_filter, Bool.and_comm]
      · have same : (rest.filter fun b => keep b && !b == a) = rest.filter keep := by
          refine List.filter_congr ?_
          intro b _
          by_cases here : b = a
          · simp [here, kept]
          · simp [here]
        simp only [kept, if_false, same, Bool.false_eq_true]
termination_by l => l.length
decreasing_by exact length_filter_lt_cons _ _ _

/-- The head is kept, and of what is kept of the tail all but the head. -/
theorem eraseDups_cons_filter (a : α) (rest : List α) :
    (a :: rest).eraseDups = a :: rest.eraseDups.filter fun b => !b == a := by
  rw [List.eraseDups_cons, filter_eraseDups]

/-- Where nothing is repeated there is nothing to erase. -/
theorem eraseDups_of_nodup {l : List α} (nodup : l.Nodup) : l.eraseDups = l := by
  induction l with
  | nil => rfl
  | cons a rest ih =>
      obtain ⟨fresh, tail⟩ := List.nodup_cons.1 nodup
      rw [eraseDups_cons_filter, ih tail, List.filter_eq_self.2]
      intro b member
      have different : b ≠ a := fun same => fresh (same ▸ member)
      simpa using different

/-- What remains stands in the order of its first occurrences. -/
theorem pairwise_idxOf_eraseDups (l : List α) :
    l.eraseDups.Pairwise fun a b => l.idxOf a < l.idxOf b := by
  induction l with
  | nil => exact .nil
  | cons a rest ih =>
      have later : ∀ b ∈ rest.eraseDups.filter fun b => !b == a,
          (a :: rest).idxOf b = rest.idxOf b + 1 := by
        intro b member
        have different : a ≠ b := by
          rintro rfl
          simp at member
        exact List.idxOf_cons_ne rest different
      rw [eraseDups_cons_filter, List.pairwise_cons]
      constructor
      · intro b member
        rw [List.idxOf_cons_self, later b member]
        exact Nat.succ_pos _
      · refine (ih.filter _).imp_of_mem ?_
        intro b c inB inC before
        rw [later b inB, later c inC]
        exact Nat.succ_lt_succ before

/-- A further element is kept unless it has occurred. -/
theorem eraseDups_concat (l : List α) (a : α) :
    (l ++ [a]).eraseDups = if a ∈ l then l.eraseDups else l.eraseDups ++ [a] := by
  rw [List.eraseDups_append]
  by_cases seen : a ∈ l <;> simp [List.removeAll, List.eraseDups_cons, seen]

end TripleAlgebra
