/-
# TripleAlgebra.Proofs.Algebra.Rebuild -- a query over other children is the same operator

`WithChildren a cs b` says that `b` is `a` with the children `cs` in place of its own: the
operator with all its parameters stays, and there are as many children as it takes.
`Algebra.withChildren` makes exactly that (`withChildren_eq_ok_iff`) and refuses any other number
of children by naming the operator and both numbers (`withChildren_of_length_ne`).

So a node may be taken apart and put together again at every place of a tree.  With its own
children it is the tree that it was (`rebuild_id`).  With its children reversed it is the mirror
image (`rebuild_reverse`), whose mirror image is the tree again.  Where nothing but joins and
unions puts two children together, the mirror image has the scope of the tree (`scope_mirror`).
-/
import Mathlib.Data.List.Basic
import TripleAlgebra.Algebra.Rebuild
import TripleAlgebra.Proofs.Algebra.Outcome

namespace TripleAlgebra

set_option autoImplicit false

/-! ## Two sides in either order -/

/-- A join or a union binds the same, whichever side comes first. -/
theorem Combinator.scope_comm {k : Combinator} (symmetric : k = .join ∨ k = .union) (l r : Scope) :
    k.scope l r = k.scope r l := by
  rcases symmetric with rfl | rfl
  · simp only [scope, NameSet.union_comm l.fixed, NameSet.union_comm l.floating]
  · simp only [scope, NameSet.inter_comm l.fixed, NameSet.union_comm l.names]

namespace Algebra

/-! ## One node -/

/-- The second query is the first but for its children, which are those of the list. -/
inductive WithChildren : Algebra → List Algebra → Algebra → Prop where
  | pattern (p : Pattern) : WithChildren (pattern p) [] (pattern p)
  | bgp (ps : List Pattern) : WithChildren (bgp ps) [] (bgp ps)
  | modify (modifier : Modifier) (inner child : Algebra) :
      WithChildren (modify modifier inner) [child] (modify modifier child)
  | combine (combinator : Combinator) (left right first second : Algebra) :
      WithChildren (combine combinator left right) [first, second]
        (combine combinator first second)

variable {a b : Algebra} {cs : List Algebra}

namespace WithChildren

theorem children_eq (copy : WithChildren a cs b) : b.children = cs := by
  cases copy <;> rfl

theorem length_eq (copy : WithChildren a cs b) : cs.length = a.children.length := by
  cases copy <;> rfl

/-- A copy is made into further copies as the node itself is. -/
theorem withChildren_eq (copy : WithChildren a cs b) (ds : List Algebra) :
    b.withChildren ds = a.withChildren ds := by
  cases copy with
  | pattern p => rfl
  | bgp ps => rfl
  | modify modifier inner child => rcases ds with _ | ⟨d, _ | ⟨e, rest⟩⟩ <;> rfl
  | combine combinator left right first second =>
      rcases ds with _ | ⟨d, _ | ⟨e, _ | ⟨f, rest⟩⟩⟩ <;> rfl

theorem withChildren_ok (copy : WithChildren a cs b) : a.withChildren cs = .ok b := by
  cases copy <;> rfl

end WithChildren

/-- The node with its own children is itself. -/
theorem withChildren_self (a : Algebra) : WithChildren a a.children a := by
  cases a with
  | pattern p => exact .pattern p
  | bgp ps => exact .bgp ps
  | modify modifier inner => exact .modify modifier inner inner
  | combine combinator left right => exact .combine combinator left right left right

/-- As many children as the node has can take their place. -/
theorem exists_withChildren (fits : cs.length = a.children.length) :
    ∃ b, WithChildren a cs b := by
  cases a with
  | pattern p =>
      obtain rfl := List.length_eq_zero_iff.1 fits
      exact ⟨_, .pattern p⟩
  | bgp ps =>
      obtain rfl := List.length_eq_zero_iff.1 fits
      exact ⟨_, .bgp ps⟩
  | modify modifier inner =>
      obtain ⟨child, rfl⟩ := List.length_eq_one_iff.1 fits
      exact ⟨_, .modify modifier inner child⟩
  | combine combinator left right =>
      obtain ⟨first, second, rfl⟩ := List.length_eq_two.1 fits
      exact ⟨_, .combine combinator left right first second⟩

/-- Any other number of children is refused. -/
theorem withChildren_of_length_ne (other : cs.length ≠ a.children.length) :
    a.withChildren cs = .error (.childCount a.operatorName a.children.length cs.length) := by
  cases a with
  | pattern p =>
      rcases cs with _ | ⟨c, rest⟩
      · exact absurd rfl other
      · rfl
  | bgp ps =>
      rcases cs with _ | ⟨c, rest⟩
      · exact absurd rfl other
      · rfl
  | modify modifier inner =>
      rcases cs with _ | ⟨c, _ | ⟨d, rest⟩⟩
      · rfl
      · exact absurd rfl other
      · rfl
  | combine combinator left right =>
      rcases cs with _ | ⟨c, _ | ⟨d, _ | ⟨e, rest⟩⟩⟩
      · rfl
      · rfl
      · exact absurd rfl other
      · rfl

/-- **A node is copied exactly when its children are replaced one for one.** -/
theorem withChildren_eq_ok_iff : a.withChildren cs = .ok b ↔ WithChildren a cs b := by
  constructor
  · intro made
    by_cases fits : cs.length = a.children.length
    · obtain ⟨c, copy⟩ := exists_withChildren fits
      obtain rfl := Except.ok.inj (copy.withChildren_ok.symm.trans made)
      exact copy
    · rw [withChildren_of_length_ne fits] at made
      cases made
  · exact WithChildren.withChildren_ok

/-! ## Whole trees -/

/-- The tree with left and right exchanged at every node. -/
def mirror : Algebra → Algebra
  | pattern p => pattern p
  | bgp ps => bgp ps
  | modify modifier inner => modify modifier inner.mirror
  | combine combinator left right => combine combinator right.mirror left.mirror

theorem mirror_mirror (a : Algebra) : a.mirror.mirror = a := by
  induction a with
  | pattern p => rfl
  | bgp ps => rfl
  | modify modifier inner ih => simp [mirror, ih]
  | combine combinator left right ihLeft ihRight => simp [mirror, ihLeft, ihRight]

/-- A tree rebuilt as it was is the same tree. -/
theorem rebuild_id (a : Algebra) : a.rebuild id = .ok a := by
  induction a with
  | pattern p => rfl
  | bgp ps => rfl
  | modify modifier inner ih =>
      rw [rebuild, ih]
      rfl
  | combine combinator left right ihLeft ihRight =>
      rw [rebuild, ihLeft, ihRight]
      rfl

/-- A tree rebuilt with its children reversed is its mirror image. -/
theorem rebuild_reverse (a : Algebra) : a.rebuild List.reverse = .ok a.mirror := by
  induction a with
  | pattern p => rfl
  | bgp ps => rfl
  | modify modifier inner ih =>
      rw [rebuild, ih]
      rfl
  | combine combinator left right ihLeft ihRight =>
      rw [rebuild, ihLeft, ihRight]
      rfl

/-! ## Scope -/

/-- The mirror image of joins and unions binds what the tree does. -/
theorem scope_mirror (only : ∀ k l r, combine k l r ∈ a.nodes → k = .join ∨ k = .union) :
    a.mirror.scope = a.scope := by
  induction a with
  | pattern p => rfl
  | bgp ps => rfl
  | modify modifier inner ih =>
      have below := ih fun k l r inside => only k l r (List.mem_cons_of_mem _ inside)
      rw [mirror, scope, below, scope]
  | combine combinator left right ihLeft ihRight =>
      have onLeft := ihLeft fun k l r inside =>
        only k l r (List.mem_cons_of_mem _ (List.mem_append_left _ inside))
      have onRight := ihRight fun k l r inside =>
        only k l r (List.mem_cons_of_mem _ (List.mem_append_right _ inside))
      rw [mirror, scope, onLeft, onRight, scope]
      exact Combinator.scope_comm (only combinator left right List.mem_cons_self) _ _

/-- **Copying is lawful.**  Of every node,

* a copy is made exactly of as many children as it has, and any other number is answered by an
  error that names the operator and both numbers;
* the children of a copy are those that it was given, and from then on a copy is copied as the
  node itself is, so it has lost no parameter;
* copied with its own children it is itself.

Of every tree, rebuilt from the leaves up,

* with every node's own children it is the same tree;
* with the children reversed at every node it is another tree perhaps, of which the same makes the
  first one again, and which has the same fixed and floating variables if all operators with two
  children are joins and unions. -/
theorem copies_lawful (a : Algebra) :
    (∀ cs, (∃ b, a.withChildren cs = .ok b) ↔ cs.length = a.children.length) ∧
    (∀ cs, cs.length ≠ a.children.length →
      a.withChildren cs = .error (.childCount a.operatorName a.children.length cs.length)) ∧
    (∀ cs b, a.withChildren cs = .ok b →
      b.children = cs ∧ ∀ ds, b.withChildren ds = a.withChildren ds) ∧
    a.withChildren a.children = .ok a ∧
    a.rebuild id = .ok a ∧
    ∃ b, a.rebuild List.reverse = .ok b ∧ b.rebuild List.reverse = .ok a ∧
      ((∀ k l r, combine k l r ∈ a.nodes → k = .join ∨ k = .union) →
        b.scope.fixed = a.scope.fixed ∧ b.scope.floating = a.scope.floating) := by
  refine ⟨?_, fun _ => withChildren_of_length_ne, ?_, (withChildren_self a).withChildren_ok,
    rebuild_id a, a.mirror, rebuild_reverse a, ?_, ?_⟩
  · intro cs
    constructor
    · rintro ⟨b, made⟩
      exact (withChildren_eq_ok_iff.1 made).length_eq
    · intro fits
      obtain ⟨b, copy⟩ := exists_withChildren fits
      exact ⟨b, copy.withChildren_ok⟩
  · intro cs b made
    have copy := withChildren_eq_ok_iff.1 made
    exact ⟨copy.children_eq, copy.withChildren_eq⟩
  · rw [rebuild_reverse, mirror_mirror]
  · intro only
    rw [scope_mirror only]
    exact ⟨rfl, rfl⟩

/-- Those with a telephone are listed, and again with their rooms.  The list is no node for one
child; a run of it can be made a run of the offices and back; its mirror image is another tree in
which the same variable is fixed. -/
theorem copies_lawful_telephones :
    let listed := combine .union
      (modify (.project ["who"]) (Sample.column "phone" "number"))
      (combine .join (Sample.column "office" "room") (Sample.column "phone" "number"))
    let run := modify (.slice 1 (some 2)) listed
    listed.withChildren [listed] = .error (.childCount "union" 2 1) ∧
    (∃ copy, run.withChildren [Sample.offices] = .ok copy ∧ copy.children = [Sample.offices] ∧
      copy.withChildren [listed] = .ok run) ∧
    (∀ k l r, combine k l r ∈ listed.nodes → k = .join ∨ k = .union) ∧
    ∃ image, listed.rebuild List.reverse = .ok image ∧ image ≠ listed ∧
      image.rebuild List.reverse = .ok listed ∧ image.scope.fixed = .ofList ["who"] := by
  intro listed run
  have only : ∀ k l r, combine k l r ∈ listed.nodes → k = .join ∨ k = .union := by
    intro k l r inside
    simp only [listed, Sample.column, nodes, List.mem_append, List.mem_cons, List.not_mem_nil,
      combine.injEq, reduceCtorEq, or_false, false_or] at inside
    rcases inside with ⟨rfl, -, -⟩ | ⟨rfl, -, -⟩
    · exact Or.inr rfl
    · exact Or.inl rfl
  obtain ⟨-, refused, -, -, -, image, rebuilt, back, scopes⟩ := copies_lawful listed
  obtain ⟨made, -, copied, own, -⟩ := copies_lawful run
  obtain ⟨copy, ofOffices⟩ := (made [Sample.offices]).2 rfl
  obtain ⟨inner, again⟩ := copied _ copy ofOffices
  have other : image ≠ listed := by
    rintro rfl
    exact absurd rebuilt (by decide)
  exact ⟨refused [listed] (by decide), ⟨copy, ofOffices, inner, (again [listed]).trans own⟩, only,
    image, rebuilt, other, back, (scopes only).1.trans (by decide)⟩

/-- The sides of an optional join are no equals: what its mirror image always binds is another
variable. -/
example : Sample.directory.scope.fixed = .ofList ["room", "who"] ∧
    Sample.directory.mirror.scope.fixed = .ofList ["number", "who"] := by
  decide

end Algebra

end TripleAlgebra
