/-
# TripleAlgebra.Proofs.Bag.Distinct -- each solution where it occurred first

What `distinct` leaves of a bag can be found in one scan of its solutions, with a test that
remembers in a hash set what it has met: a solution passes the first time and never again
(`firstTime`).  A scan that starts with some solutions met keeps the first occurrences of the
others (`run_keepM_firstTime`), so one that starts with none keeps all first occurrences
(`run_retainM_firstTime`).

The solutions that are left are those of the bag, each once, in the order in which they occurred
first; and whether a test without memory cuts a bag down before or after that makes no
difference (`distinct_retain`).
-/
import Std.Data.HashSet.Lemmas
import TripleAlgebra.Bag.Effectful
import TripleAlgebra.Proofs.Bag.Rearrangement

namespace TripleAlgebra.Bag

set_option autoImplicit false

/-! ## The scan -/

/-- A solution passes if it has not been met, and has been met from then on. -/
def firstTime (s : Solution) : StateM (Std.HashSet Solution) Bool := do
  let (before, met) := (← get).containsThenInsert s
  set met
  return !before

theorem run_firstTime (s : Solution) (met : Std.HashSet Solution) :
    (firstTime s).run met = (!met.contains s, met.insert s) := by
  rw [← Std.HashSet.containsThenInsert_fst, ← Std.HashSet.containsThenInsert_snd]
  rfl

/-- One solution is looked at, and the scan goes on with it among those met. -/
theorem run_keepM_firstTime_cons (s : Solution) (rest : List Solution)
    (met : Std.HashSet Solution) :
    ((keepM firstTime (s :: rest)).run met).1 =
      let others := ((keepM firstTime rest).run (met.insert s)).1
      if !met.contains s then s :: others else others := by
  simp only [keepM, StateT.run_bind, run_firstTime]
  rfl

/-- **A scan keeps the first occurrences of what has not been met.** -/
theorem run_keepM_firstTime (l : List Solution) (met : Std.HashSet Solution) :
    ((keepM firstTime l).run met).1 = l.eraseDups.filter fun s => !met.contains s := by
  induction l generalizing met with
  | nil => rfl
  | cons s rest ih =>
      -- met or not, `s` is not kept again
      have others : ((keepM firstTime rest).run (met.insert s)).1 =
          (rest.eraseDups.filter fun t => !t == s).filter fun t => !met.contains t := by
        rw [ih, List.filter_filter]
        refine List.filter_congr ?_
        intro t _
        rw [Std.HashSet.contains_insert, Bool.not_or, Bool.and_comm, Bool.beq_comm]
      rw [run_keepM_firstTime_cons, others, eraseDups_cons_filter, List.filter_cons]

/-- A bag is scanned for what has not occurred in it. -/
theorem run_retainM_firstTime (b : Bag) : ((b.retainM firstTime).run ∅).1 = b.distinct := by
  cases b with
  | identity =>
      simp only [retainM, StateT.run_bind, run_firstTime, Std.HashSet.contains_empty]
      rfl
  | null => rfl
  | regular names solutions =>
      have scanned : (((regular names solutions).retainM firstTime).run ∅).1 =
          regular names ((keepM firstTime solutions).run ∅).1 := rfl
      have all : (solutions.eraseDups.filter fun s => !(∅ : Std.HashSet Solution).contains s) =
          solutions.eraseDups := by
        simp
      rw [scanned, run_keepM_firstTime, all]
      rfl

/-! ## What is left of a bag -/

theorem sameSolutions_distinct (b : Bag) : SameSolutions b.distinct b := by
  refine ⟨names_distinct b, ?_⟩
  intro s
  rw [solutions_distinct, List.mem_eraseDups]

theorem distinct_eq_identity_iff {b : Bag} : b.distinct = identity ↔ b = identity := by
  cases b <;> simp [distinct]

theorem distinct_eq_null_iff {b : Bag} : b.distinct = null ↔ b = null := by
  cases b <;> simp [distinct]

theorem distinct_distinct (b : Bag) : b.distinct.distinct = b.distinct := by
  cases b with
  | identity => rfl
  | null => rfl
  | regular names solutions =>
      exact congrArg (regular names) (eraseDups_of_nodup (nodup_eraseDups solutions))

/-- Solutions are sorted out before their repetitions as after. -/
theorem distinct_retain (keep : Solution → Bool) (b : Bag) :
    (b.retain keep).distinct = b.distinct.retain keep := by
  cases b with
  | identity => by_cases kept : keep ∅ = true <;> simp [retain, distinct, empty, kept]
  | null => rfl
  | regular names solutions =>
      exact congrArg (regular names) (filter_eraseDups keep solutions).symm

/-- **`distinct` keeps the first occurrences and nothing else, and commutes with tests.**  Of any
bag,

* it is what one scan leaves that lets a solution pass unless it has met it;
* no solution is left twice, the same ones are left under the same declared names, and a marked
  bag stays what it is and no other bag becomes one;
* what is left stands in the order in which it occurred first in the bag;
* nothing further is lost by doing it again;
* solutions may be tested before or after, and the bags are the same. -/
theorem distinct_keeps_first (b : Bag) :
    ((b.retainM firstTime).run ∅).1 = b.distinct ∧
    b.distinct.solutions.Nodup ∧ SameSolutions b.distinct b ∧
    (b.distinct = identity ↔ b = identity) ∧ (b.distinct = null ↔ b = null) ∧
    (b.distinct.solutions.Pairwise fun s t => b.solutions.idxOf s < b.solutions.idxOf t) ∧
    b.distinct.distinct = b.distinct ∧
    ∀ keep : Solution → Bool, (b.retain keep).distinct = b.distinct.retain keep := by
  refine ⟨run_retainM_firstTime b, ?_, sameSolutions_distinct b, distinct_eq_identity_iff,
    distinct_eq_null_iff, ?_, distinct_distinct b, fun keep => distinct_retain keep b⟩
  · rw [solutions_distinct]
    exact nodup_eraseDups b.solutions
  · rw [solutions_distinct]
    exact pairwise_idxOf_eraseDups b.solutions

/-- Whoever is named again, with the bindings in another order, is no further solution. -/
example :
    (ofSolutions ∅ [.ofList [("room", .iri "e7"), ("who", .iri "ann")],
      .ofList [("who", .iri "bob")],
      .ofList [("who", .iri "ann"), ("room", .iri "e7")]]).distinct.solutions =
      [.ofList [("room", .iri "e7"), ("who", .iri "ann")], .ofList [("who", .iri "bob")]] := by
  decide

end TripleAlgebra.Bag
