/-
# TripleAlgebra.Proofs.Bag.Semiring -- joins as products, unions as sums

Whatever two bags are joined or united, `null` and `identity` are met as special cases: `null`
absorbs in a join and is the unit of a union, `identity` is the unit of a join and counts as one
empty solution in a union.  A bag that operations have made declares every name that it binds, so
nothing is added to the declared names of its joins and unions; all that is left of these are sets
of names and lists of pairs (`Declares.join_regular`, `Declares.union_eq`).

Joins are therefore associative as they stand, and so is the distribution of a join over a union
on its left (`join_assoc`, `union_join`): kind, names and order are the same, although the
bracketings sort their solutions into buckets by different names.  Exchanging the sides of a join
keeps all but the order (`rearranged_join_comm`), hence so does the distribution over a union on
its right.
-/
import TripleAlgebra.Proofs.Bag.History
import TripleAlgebra.Proofs.Bag.Pairs
import TripleAlgebra.Proofs.Bag.Rearrangement

namespace TripleAlgebra

set_option autoImplicit false

namespace Bag

variable {a b c : Bag} {v w : NameSet} {l m : List Solution}

/-! ## Bags that declare what they bind -/

/-- Nothing is added to names that cover the solutions. -/
theorem ofSolutions_of_declares (declares : (regular v l).Declares) :
    ofSolutions v l = regular v l := by
  have covered : v ∪ boundNames l = v := by
    refine NameSet.ext_mem ?_
    intro x
    rw [NameSet.mem_union]
    refine or_iff_left_of_imp ?_
    intro bound
    obtain ⟨s, inside, key⟩ := mem_boundNames.1 bound
    exact declares s inside x (Bindings.has_eq_true_iff.2 key)
  rw [ofSolutions, covered]

/-- A merge binds nothing but what one of its sides binds. -/
theorem declares_nestedLoop (onLeft : (regular v l).Declares) (onRight : (regular w m).Declares) :
    (regular (v ∪ w) (nestedLoop l m)).Declares := by
  intro t inside x has
  obtain ⟨s, inL, u, inM, merged⟩ := mem_nestedLoop.1 inside
  refine NameSet.mem_union.2 ?_
  rcases (Solution.has_of_merge merged x).1 has with left | right
  · exact Or.inl (onLeft s inL x left)
  · exact Or.inr (onRight u inM x right)

namespace Declares

theorem join_regular (onLeft : a.Declares) (onRight : (regular w m).Declares) (some : a ≠ null) :
    a.join (regular w m) = regular (a.names ∪ w) (nestedLoop a.solutions m) := by
  cases a with
  | null => exact absurd rfl some
  | identity => exact congrArg (regular w) (nestedLoop_identity m).symm
  | regular v l =>
      rw [Bag.join_regular, ofSolutions_of_declares (declares_nestedLoop onLeft onRight)]
      rfl

theorem union_eq (onLeft : a.Declares) (onRight : b.Declares) (someLeft : a ≠ null)
    (someRight : b ≠ null) :
    a.union b = regular (a.names ∪ b.names) (a.solutions ++ b.solutions) := by
  rw [union_of_ne_null someLeft someRight]
  refine ofSolutions_of_declares ?_
  intro s inside x has
  rcases List.mem_append.1 inside with left | right
  · exact NameSet.mem_union.2 (Or.inl (onLeft s left x has))
  · exact NameSet.mem_union.2 (Or.inr (onRight s right x has))

end Declares

/-! ## Laws -/

/-- **Joins are associative**, order and declared names included. -/
theorem join_assoc (onLeft : a.Declares) (onMiddle : b.Declares) (onRight : c.Declares) :
    (a.join b).join c = a.join (b.join c) := by
  cases a with
  | null => simp
  | identity => simp
  | regular v l =>
      cases b with
      | null => simp
      | identity => simp
      | regular w m =>
          cases c with
          | null => simp
          | identity => simp
          | regular u n =>
              -- whatever buckets a join makes, its solutions are those of the nested loop
              have first := declares_nestedLoop onLeft onMiddle
              have last := declares_nestedLoop onMiddle onRight
              calc ((regular v l).join (regular w m)).join (regular u n)
                  = (regular (v ∪ w) (nestedLoop l m)).join (regular u n) := by
                    rw [onLeft.join_regular onMiddle nofun]
                    rfl
                _ = regular (v ∪ w ∪ u) (nestedLoop (nestedLoop l m) n) :=
                    first.join_regular onRight nofun
                _ = regular (v ∪ (w ∪ u)) (nestedLoop l (nestedLoop m n)) := by
                    rw [NameSet.union_assoc, nestedLoop_assoc]
                _ = (regular v l).join (regular (w ∪ u) (nestedLoop m n)) :=
                    (onLeft.join_regular last nofun).symm
                _ = (regular v l).join ((regular w m).join (regular u n)) := by
                    rw [onMiddle.join_regular onRight nofun]
                    rfl

/-- **Which side of a join comes first** is seen in the order of its solutions only. -/
theorem rearranged_join_comm (a b : Bag) : Rearranged (a.join b) (b.join a) := by
  cases a with
  | null => rw [null_join, join_null]; exact .null
  | identity => rw [identity_join, join_identity]; exact .refl b
  | regular v l =>
      cases b with
      | null => exact .null
      | identity => exact .refl _
      | regular w m =>
          rw [join_regular, join_regular, NameSet.union_comm w v]
          exact .ofSolutions _ (perm_nestedLoop_comm l m)

/-- **A join distributes over a union on its left**, order and declared names included. -/
theorem union_join (onLeft : a.Declares) (onMiddle : b.Declares) (onRight : c.Declares) :
    (a.union b).join c = (a.join c).union (b.join c) := by
  by_cases noLeft : a = null
  · simp [noLeft]
  by_cases noMiddle : b = null
  · simp [noMiddle]
  cases c with
  | null => simp
  | identity => simp
  | regular u n =>
      have made := onLeft.union_eq onMiddle noLeft noMiddle
      have united := onLeft.union onMiddle
      have first := onLeft.join onRight
      have second := onMiddle.join onRight
      rw [made] at united
      rw [onLeft.join_regular onRight noLeft] at first
      rw [onMiddle.join_regular onRight noMiddle] at second
      calc (a.union b).join (regular u n)
          = (regular (a.names ∪ b.names) (a.solutions ++ b.solutions)).join (regular u n) := by
            rw [made]
        _ = regular (a.names ∪ b.names ∪ u) (nestedLoop (a.solutions ++ b.solutions) n) :=
            united.join_regular onRight nofun
        _ = regular (a.names ∪ u ∪ (b.names ∪ u))
              (nestedLoop a.solutions n ++ nestedLoop b.solutions n) := by
            rw [NameSet.union_union_distrib_right, nestedLoop_append]
        _ = (regular (a.names ∪ u) (nestedLoop a.solutions n)).union
              (regular (b.names ∪ u) (nestedLoop b.solutions n)) :=
            (first.union_eq second nofun nofun).symm
        _ = (a.join (regular u n)).union (b.join (regular u n)) := by
            rw [onLeft.join_regular onRight noLeft, onMiddle.join_regular onRight noMiddle]

/-- A join distributes over a union on its right, but for the order. -/
theorem rearranged_join_union (onLeft : a.Declares) (onMiddle : b.Declares)
    (onRight : c.Declares) :
    Rearranged (c.join (a.union b)) ((c.join a).union (c.join b)) := by
  have exchanged : Rearranged (c.join (a.union b)) ((a.join c).union (b.join c)) := by
    rw [← union_join onLeft onMiddle onRight]
    exact rearranged_join_comm c (a.union b)
  exact exchanged.trans ((rearranged_join_comm a c).union (rearranged_join_comm b c))

/-- **Bags under join and union make a semiring, up to order where it has to be.**  Of bags that
operations have made, whichever of them are `null`, `identity` or empty,

* joins are associative, with the same kind, names and order;
* the sides of a join may be exchanged: kind and names are the same, and every solution is there
  equally often;
* a join distributes over a union on its left, with the same kind, names and order;
* and over a union on its right, with the same kind and names and each solution equally often. -/
theorem semiring_of_history (first : Reachable a) (second : Reachable b) (third : Reachable c) :
    (a.join b).join c = a.join (b.join c) ∧
    Rearranged (a.join b) (b.join a) ∧
    (a.union b).join c = (a.join c).union (b.join c) ∧
    Rearranged (c.join (a.union b)) ((c.join a).union (c.join b)) :=
  ⟨join_assoc first.declares second.declares third.declares,
    rearranged_join_comm a b,
    union_join first.declares second.declares third.declares,
    rearranged_join_union first.declares second.declares third.declares⟩

end Bag

namespace Sample

/-- On which floor a room is. -/
def floors : Bag :=
  .ofSolutions ∅ [.ofList [("floor", .iri "1"), ("room", .iri "e7")],
    .ofList [("floor", .iri "2"), ("room", .iri "e8")]]

end Sample

/-- Who is present and who is expected share the person, but neither binds a room throughout.  The
outer join therefore tries all pairs in one bracketing and has buckets in the other.  The sides of
the first join cannot be exchanged without another order. -/
theorem Bag.semiring_of_history_floors :
    Reachable Sample.present ∧ Reachable Sample.expected ∧ Reachable Sample.floors ∧
    (Sample.present.join Sample.expected).join Sample.floors =
      Sample.present.join (Sample.expected.join Sample.floors) ∧
    (Sample.present.join Sample.expected).solutions ≠
      (Sample.expected.join Sample.present).solutions ∧
    Rearranged (Sample.present.join Sample.expected) (Sample.expected.join Sample.present) ∧
    (Sample.present.union Sample.expected).join Sample.floors =
      (Sample.present.join Sample.floors).union (Sample.expected.join Sample.floors) ∧
    Rearranged (Sample.floors.join (Sample.present.union Sample.expected))
      ((Sample.floors.join Sample.present).union (Sample.floors.join Sample.expected)) := by
  have first : Reachable Sample.present := .ofSolutions ∅ _
  have second : Reachable Sample.expected := .ofSolutions ∅ _
  have third : Reachable Sample.floors := .ofSolutions ∅ _
  obtain ⟨assoc, comm, onLeft, onRight⟩ := semiring_of_history first second third
  refine ⟨first, second, third, assoc, ?_, comm, onLeft, onRight⟩
  rw [solutions_join, solutions_join]
  decide

end TripleAlgebra
