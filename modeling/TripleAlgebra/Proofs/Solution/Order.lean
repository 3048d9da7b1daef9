/-
# TripleAlgebra.Proofs.Solution.Order -- solutions ordered by what they bind

A solution is part of another when the other binds all that it binds, to the same
terms.  Merging and assigning only ever add bindings (`partOf_of_merge`,
`partOf_insert`), and what is compatible with a solution is compatible with every part
of it (`PartOf.compatible`).

The merges of a solution with a list depend only on the members compatible with it
(`filterMap_merge`), so a list may lose other members without being missed.
-/
import TripleAlgebra.Solution

namespace TripleAlgebra.Solution

set_option autoImplicit false

/-- Every binding of the first solution is one of the second. -/
def PartOf (a b : Solution) : Prop :=
  ∀ x t, a.get? x = some t → b.get? x = some t

theorem PartOf.refl (a : Solution) : a.PartOf a := fun _ _ bound => bound

theorem PartOf.trans {a b c : Solution} (ab : a.PartOf b) (bc : b.PartOf c) : a.PartOf c :=
  fun x t bound => bc x t (ab x t bound)

/-- What is compatible with a solution is compatible with its parts. -/
theorem PartOf.compatible {a b c : Solution} (part : a.PartOf b)
    (fits : b.compatible c = true) : a.compatible c = true := by
  rw [compatible_iff] at fits ⊢
  intro x t u atA atC
  exact fits x t u (part x t atA) atC

theorem PartOf.has {a b : Solution} (part : a.PartOf b) {x : String} (bound : a.has x = true) :
    b.has x = true := by
  obtain ⟨t, found⟩ := Option.isSome_iff_exists.1 bound
  exact Option.isSome_iff_exists.2 ⟨t, part x t found⟩

theorem empty_partOf (s : Solution) : PartOf ∅ s := by
  intro x t bound
  simp at bound

theorem empty_compatible (s : Solution) : compatible ∅ s = true :=
  (empty_partOf s).compatible (compatible_iff.2 fun x t u first second => by simp_all)

theorem partOf_restrict (keep : String → Bool) (s : Solution) :
    PartOf (s.restrict keep) s := by
  intro x t bound
  rw [Bindings.get?_restrict] at bound
  split at bound
  · exact bound
  · simp at bound

theorem get?_project (names : List String) (s : Solution) (x : String) :
    (s.project names).get? x = if x ∈ names then s.get? x else none := by
  simp [project]

theorem partOf_insert {s : Solution} {x : String} (free : s.get? x = none) (t : Term) :
    s.PartOf (s.insert x t) := by
  intro y u bound
  have different : y ≠ x := by
    rintro rfl
    simp [free] at bound
  rw [Bindings.get?_insert, if_neg different]
  exact bound

/-! ## Merging -/

theorem partOf_union (a b : Solution) : PartOf a (a.union b) := by
  intro x t bound
  simp [bound]

theorem merge_empty (s : Solution) : merge ∅ s = some s := by
  refine merge_eq_some_iff.2 ⟨empty_compatible s, Bindings.ext_get? fun x => ?_⟩
  simp

theorem merge_empty_right (s : Solution) : s.merge ∅ = some s := by
  refine merge_eq_some_iff.2 ⟨?_, Bindings.ext_get? fun x => ?_⟩
  · rw [compatible_comm]
    exact empty_compatible s
  · simp

/-- A solution is part of each of its merges. -/
theorem partOf_of_merge {a b c : Solution} (merged : a.merge b = some c) : a.PartOf c := by
  obtain ⟨-, rfl⟩ := merge_eq_some_iff.1 merged
  exact partOf_union a b

/-- A merge binds what either of the two binds. -/
theorem has_of_merge {a b c : Solution} (merged : a.merge b = some c) (x : String) :
    c.has x = true ↔ a.has x = true ∨ b.has x = true := by
  obtain ⟨-, rfl⟩ := merge_eq_some_iff.1 merged
  simp [Bindings.has]

/-- The merges of a solution with a list are its unions with the compatible members. -/
theorem filterMap_merge (s : Solution) (l : List Solution) :
    l.filterMap s.merge = (l.filter s.compatible).map fun t => s.union t := by
  induction l with
  | nil => rfl
  | cons t rest ih =>
      by_cases fits : s.compatible t = true
      · simp [merge, fits, ih]
      · simp [merge, fits, ih]

end TripleAlgebra.Solution
