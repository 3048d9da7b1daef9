/-
# TripleAlgebra.Proofs.Algebra.Extension -- solutions after some assignments

What one assignment makes of a solution is said in three cases, by its expression and by what its
variable is bound to (`Assignment.Makes`); the fourth is a conflict (`Assignment.Conflicts`).
Assigning only adds bindings (`partOf_of_extendSolution`), and none but those of the
assigned names (`has_of_extendSolution`).  A list of solutions can be extended exactly
when each of them can (`extendSolutions_isOk_iff`), whatever the solutions before it, and
then the result is the list of the extended solutions (`extendSolutions_eq_ok`).  The only
failure is an assignment that would change a binding (`rebinding_of_extendSolutions`), and no
other modifier fails at all (`Modifier.rebinding_of_meaning`).
-/
import TripleAlgebra.Algebra.Meaning
import TripleAlgebra.Proofs.Failure
import TripleAlgebra.Proofs.Solution.Order

namespace TripleAlgebra

set_option autoImplicit false

/-! ## One assignment -/

namespace Assignment

/-- The variable is bound, and not to the value of the expression. -/
def Conflicts (a : Assignment) (s : Solution) : Prop :=
  ∃ value bound, a.value.evaluate s = .ok value ∧ s.get? a.name = some bound ∧ bound ≠ value

/-- What the assignment makes of a solution. -/
inductive Makes (a : Assignment) (s : Solution) : Solution → Prop where
  /-- The expression has no value. -/
  | nothing {e : ExpressionError} (failed : a.value.evaluate s = .error e) : Makes a s s
  /-- The variable is bound to the value of the expression. -/
  | again {value : Term} (yields : a.value.evaluate s = .ok value)
      (bound : s.get? a.name = some value) : Makes a s s
  /-- The variable is not bound, and receives the value. -/
  | binding {value : Term} (yields : a.value.evaluate s = .ok value)
      (free : s.get? a.name = none) : Makes a s (s.insert a.name value)

variable {a : Assignment} {s t : Solution}

theorem apply?_eq_some_iff : a.apply? s = some t ↔ a.Makes s t := by
  constructor
  · intro applied
    unfold Assignment.apply? at applied
    split at applied
    · rename_i failed
      cases applied
      exact .nothing failed
    · rename_i value yields
      split at applied
      · rename_i bound found
        split at applied
        · rename_i same
          cases applied
          exact .again yields (same ▸ found)
        · cases applied
      · rename_i free
        cases applied
        exact .binding yields free
  · intro made
    unfold Assignment.apply?
    cases made with
    | nothing failed => simp only [failed]
    | again yields bound => simp only [yields, bound, if_true]
    | binding yields free => simp only [yields, free]

theorem apply?_eq_none_iff : a.apply? s = none ↔ a.Conflicts s := by
  constructor
  · intro refused
    unfold Assignment.apply? at refused
    split at refused
    · cases refused
    · rename_i value yields
      split at refused
      · rename_i bound found
        split at refused
        · cases refused
        · rename_i different
          exact ⟨value, bound, yields, found, different⟩
      · cases refused
  · rintro ⟨value, bound, yields, found, different⟩
    unfold Assignment.apply?
    simp only [yields, found, if_neg different]

namespace Makes

/-- An assignment keeps every binding. -/
theorem partOf (made : a.Makes s t) : s.PartOf t := by
  cases made with
  | nothing => exact Solution.PartOf.refl s
  | again => exact Solution.PartOf.refl s
  | binding yields free => exact Solution.partOf_insert free _

/-- An assignment binds at most the assigned name. -/
theorem has (made : a.Makes s t) {x : String} (bound : t.has x = true) :
    s.has x = true ∨ x = a.name := by
  cases made with
  | nothing => exact Or.inl bound
  | again => exact Or.inl bound
  | binding yields free =>
      by_cases here : x = a.name
      · exact Or.inr here
      · exact Or.inl (by simpa [Bindings.has, here] using bound)

end Makes

end Assignment

/-! ## One solution -/

section Assigning

variable {assignments : List Assignment} {s t : Solution}

/-- The first assignment is made before the others. -/
theorem extendSolution_cons_eq_ok {a : Assignment} :
    extendSolution (a :: assignments) s = .ok t ↔
      ∃ middle, a.Makes s middle ∧ extendSolution assignments middle = .ok t := by
  simp only [extendSolution, ← Assignment.apply?_eq_some_iff]
  cases a.apply? s with
  | none => simp
  | some middle => simp

theorem partOf_of_extendSolution (made : extendSolution assignments s = .ok t) : s.PartOf t := by
  induction assignments generalizing s with
  | nil =>
      cases made
      exact Solution.PartOf.refl _
  | cons a rest ih =>
      obtain ⟨middle, first, later⟩ := extendSolution_cons_eq_ok.1 made
      exact first.partOf.trans (ih later)

/-- Assignments bind at most the assigned names. -/
theorem has_of_extendSolution (made : extendSolution assignments s = .ok t) {x : String}
    (has : t.has x = true) : s.has x = true ∨ x ∈ assignments.map Assignment.name := by
  induction assignments generalizing s with
  | nil =>
      cases made
      exact Or.inl has
  | cons a rest ih =>
      obtain ⟨middle, first, later⟩ := extendSolution_cons_eq_ok.1 made
      rcases ih later with before | assigned
      · rcases first.has before with given | rfl
        · exact Or.inl given
        · exact Or.inr List.mem_cons_self
      · exact Or.inr (List.mem_cons_of_mem _ assigned)

/-- The solution after the assignments, if there is no conflict. -/
def extended? (assignments : List Assignment) (s : Solution) : Option Solution :=
  (extendSolution assignments s).toOption

theorem extended?_eq_some_iff :
    extended? assignments s = some t ↔ extendSolution assignments s = .ok t := by
  unfold extended?
  cases extendSolution assignments s <;> simp [Except.toOption]

end Assigning

/-! ## Lists of solutions -/

variable {assignments : List Assignment} {index : Nat} {l out : List Solution}

theorem extendSolutions_eq_ok (extended : extendSolutions assignments index l = .ok out) :
    l.filterMap (extended? assignments) = out := by
  induction l generalizing index out with
  | nil =>
      cases extended
      rfl
  | cons s rest ih =>
      simp only [extendSolutions] at extended
      cases first : extendSolution assignments s with
      | error name =>
          rw [first] at extended
          cases extended
      | ok t =>
          rw [first] at extended
          obtain ⟨others, later, rfl⟩ := map_eq_ok_iff.1 extended
          rw [List.filterMap_cons_some (extended?_eq_some_iff.2 first), ih later]

/-- A list can be extended when each of its solutions can. -/
theorem extendSolutions_isOk_iff (assignments : List Assignment) (index : Nat)
    (l : List Solution) :
    (∃ out, extendSolutions assignments index l = .ok out) ↔
      ∀ s ∈ l, ∃ t, extendSolution assignments s = .ok t := by
  induction l generalizing index with
  | nil => simp [extendSolutions]
  | cons s rest ih =>
      rw [List.forall_mem_cons, ← ih (index + 1)]
      simp only [extendSolutions]
      cases first : extendSolution assignments s with
      | error name =>
          constructor
          · rintro ⟨out, ⟨⟩⟩
          · rintro ⟨⟨t, ⟨⟩⟩, -⟩
      | ok t =>
          constructor
          · rintro ⟨out, made⟩
            obtain ⟨others, later, -⟩ := map_eq_ok_iff.1 made
            exact ⟨⟨t, rfl⟩, others, later⟩
          · rintro ⟨-, others, later⟩
            exact ⟨t :: others, map_eq_ok_iff.2 ⟨others, later, rfl⟩⟩

/-- Extending can fail in one way only. -/
theorem rebinding_of_extendSolutions {e : EvaluationError}
    (failed : extendSolutions assignments index l = .error e) :
    ∃ name place, e = .rebinding name place := by
  induction l generalizing index with
  | nil => cases failed
  | cons s rest ih =>
      simp only [extendSolutions] at failed
      cases first : extendSolution assignments s with
      | error name =>
          rw [first] at failed
          exact ⟨name, index, (Except.error.inj failed).symm⟩
      | ok t =>
          rw [first] at failed
          exact ih (map_eq_error_iff.1 failed)

/-- An extended bag is `null`, or it holds the extended solutions. -/
theorem Bag.extend_eq_ok {b m : Bag} {assignments : Assignments}
    (made : b.extend assignments = .ok m) :
    m = .null ∨
      m = .ofSolutions (b.names ∪ assignments.names)
        (b.solutions.filterMap (extended? assignments.toList)) := by
  unfold Bag.extend at made
  split at made
  · cases made
    exact Or.inl rfl
  · obtain ⟨l, found, rfl⟩ := map_eq_ok_iff.1 made
    rw [extendSolutions_eq_ok found]
    exact Or.inr rfl

/-! ## Modifiers -/

/-- A modifier fails by a conflict and in no other way. -/
theorem Modifier.rebinding_of_meaning {modifier : Modifier} {e : EvaluationError}
    (failed : modifier.meaning l = .error e) : ∃ name place, e = .rebinding name place := by
  cases modifier with
  | extend assignments => exact rebinding_of_extendSolutions failed
  | filter condition => cases failed
  | distinct => cases failed
  | project names => cases failed
  | slice offset limit => cases limit <;> cases failed

theorem Modifier.rebinding_of_apply {modifier : Modifier} {b : Bag} {e : EvaluationError}
    (failed : modifier.apply b = .error e) : ∃ name place, e = .rebinding name place := by
  have meant : modifier.meaning b.solutions = .error e := by
    rw [← solutions_apply, failed]
    rfl
  exact rebinding_of_meaning meant

end TripleAlgebra
