/-
# TripleAlgebra.Algebra.Rebuild -- the same operator over other children

A query can be taken apart into its children and put together again.  A node keeps
its operator with all parameters; only the children change, and their number must
fit.
-/
import TripleAlgebra.Algebra

namespace TripleAlgebra.Algebra

set_option autoImplicit false

/-- The children of a node, from left to right. -/
def children : Algebra → List Algebra
  | pattern _ => []
  | bgp _ => []
  | modify _ inner => [inner]
  | combine _ left right => [left, right]

/-- The node with other children. -/
def withChildren (a : Algebra) (replacements : List Algebra) : Except AlgebraError Algebra :=
  match a, replacements with
  | pattern p, [] => .ok (pattern p)
  | bgp ps, [] => .ok (bgp ps)
  | modify modifier _, [inner] => .ok (modify modifier inner)
  | combine combinator _ _, [left, right] => .ok (combine combinator left right)
  | a, replacements => .error (.childCount a.operatorName a.children.length replacements.length)

/-- The tree rebuilt from the leaves up: every node gets its rebuilt children, arranged
anew. -/
def rebuild (arrange : List Algebra → List Algebra) : Algebra → Except AlgebraError Algebra
  | pattern p => (pattern p).withChildren (arrange [])
  | bgp ps => (bgp ps).withChildren (arrange [])
  | modify modifier inner => do
      let rebuilt ← inner.rebuild arrange
      (modify modifier inner).withChildren (arrange [rebuilt])
  | combine combinator left right => do
      let rebuiltLeft ← left.rebuild arrange
      let rebuiltRight ← right.rebuild arrange
      (combine combinator left right).withChildren (arrange [rebuiltLeft, rebuiltRight])

end TripleAlgebra.Algebra
