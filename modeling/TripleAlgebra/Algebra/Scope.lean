/-
# TripleAlgebra.Algebra.Scope -- what a query binds, read off its form

A query's fixed variables are bound in every solution of its answer, its floating
variables in some perhaps.  Both are computed from the tree alone.  The two sets of a
node are disjoint, because each floating set is cut down by the fixed one
(`Scope.ofFixed_disjoint`).
-/
import TripleAlgebra.Algebra

namespace TripleAlgebra

set_option autoImplicit false

/-- Variables that are always bound, and others that may be. -/
structure Scope where
  fixed : NameSet
  floating : NameSet
deriving DecidableEq

namespace Scope

/-- All variables that may be bound. -/
def names (s : Scope) : NameSet :=
  s.fixed ∪ s.floating

/-- The fixed variables, and of some others those that are not fixed. -/
def ofFixed (fixed others : NameSet) : Scope :=
  ⟨fixed, others \ fixed⟩

theorem ofFixed_disjoint (fixed others : NameSet) :
    (ofFixed fixed others).fixed.disjoint (ofFixed fixed others).floating = true := by
  rw [NameSet.disjoint_eq_true_iff]
  intro x inFixed inFloating
  exact (NameSet.mem_diff.1 inFloating).2 inFixed

end Scope

/-- The scope of a modified query. -/
def Modifier.scope (modifier : Modifier) (inner : Scope) : Scope :=
  match modifier with
  | extend assignments => .ofFixed inner.fixed (inner.floating ∪ assignments.names)
  | project names => .ofFixed (inner.fixed ∩ .ofList names) (.ofList names)
  | _ => inner

/-- The scope of two combined queries. -/
def Combinator.scope (combinator : Combinator) (left right : Scope) : Scope :=
  match combinator with
  | join => .ofFixed (left.fixed ∪ right.fixed) (left.floating ∪ right.floating)
  | leftJoin _ => .ofFixed left.fixed (left.floating ∪ right.names)
  | union => .ofFixed (left.fixed ∩ right.fixed) (left.names ∪ right.names)
  | _ => left

namespace Algebra

/-- The scope of a query. -/
def scope : Algebra → Scope
  | pattern p => ⟨p.names, ∅⟩
  | bgp ps => ⟨ps.foldr (fun p names => p.names ∪ names) ∅, ∅⟩
  | modify modifier inner => modifier.scope inner.scope
  | combine combinator left right => combinator.scope left.scope right.scope

end Algebra

end TripleAlgebra
