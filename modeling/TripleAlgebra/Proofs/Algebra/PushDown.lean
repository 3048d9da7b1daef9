/-
# TripleAlgebra.Proofs.Algebra.PushDown -- a filter may pass a join on its way down

A filter above a combinator may be applied to the left child instead, where the scope of
that child fixes all names that the condition reads.  Every solution of the left answer
then binds these names, by the soundness of scopes, and whatever the combinator makes of the
solution binds them to the same terms.  So the condition already has on the left solution
the value that it would have on any of its merges (`Combinator.filter_meaning`).

That the right child is now evaluated under fewer solutions, and perhaps no longer under
them at all, does not show: both arrangements combine a left answer with what the right
child means.
-/
import Mathlib.Data.List.Basic
import TripleAlgebra.Proofs.Algebra.Refinement
import TripleAlgebra.Proofs.Algebra.Scoping
import TripleAlgebra.Proofs.Expression.Reading

namespace TripleAlgebra

set_option autoImplicit false

/-! ## Lists -/

universe u v

/-- A test that what is made of an element passes with the element itself can be made
first. -/
theorem filter_flatMap_of_eq {α : Type u} {β : Type v} {l : List α} {f : α → List β}
    {keep : α → Bool} {keep' : β → Bool}
    (same : ∀ a ∈ l, ∀ b ∈ f a, keep' b = keep a) :
    (l.flatMap f).filter keep' = (l.filter keep).flatMap f := by
  induction l with
  | nil => rfl
  | cons a rest ih =>
      have here := same a List.mem_cons_self
      have later := ih fun c member => same c (List.mem_cons_of_mem a member)
      rw [List.flatMap_cons, List.filter_append, later, List.filter_cons]
      by_cases kept : keep a = true
      · have all : (f a).filter keep' = f a :=
          List.filter_eq_self.2 fun b member => (here b member).trans kept
        rw [if_pos kept, all, List.flatMap_cons]
      · have none : (f a).filter keep' = [] :=
          List.filter_eq_nil_iff.2 fun b member => (here b member).trans_ne kept
        rw [if_neg kept, none, List.nil_append]

/-! ## Combinators -/

/-- A test whose value is settled by the left solutions commutes with a combinator that
needs them. -/
theorem Combinator.filter_meaning {combinator : Combinator}
    (needed : combinator.needsLeft = true) {left : List Solution} {keep : Solution → Bool}
    (settled : ∀ s ∈ left, ∀ t, s.PartOf t → keep t = keep s) (right : List Solution) :
    (combinator.meaning left right).filter keep =
      combinator.meaning (left.filter keep) right := by
  cases combinator with
  | union => cases needed
  | join =>
      refine filter_flatMap_of_eq ?_
      intro s inside t member
      exact settled s inside t (Bag.partOf_of_mem_merges member)
  | leftJoin filter =>
      refine filter_flatMap_of_eq ?_
      intro s inside t member
      have own : t ∈ Bag.optionalMatches (Expr.accepts filter) [s] right := by
        rwa [Bag.optionalMatches, List.flatMap_singleton]
      exact settled s inside t (Bag.partOf_of_mem_optionalMatches own)
  | semiJoin mustExist => exact List.filter_comm ..
  | minus => exact List.filter_comm ..

/-! ## Queries -/

namespace Algebra

/-- **A filter over fixed names may be pushed down.**  Where all names of a condition are
fixed by the left child, filtering what a join or an optional join makes of two children is
the same as filtering the left child before: under every input the two queries have one
list of solutions, if they both have answers.  The same goes for every other combinator
that needs its left side. -/
theorem filter_pushdown {combinator : Combinator} (needed : combinator.needsLeft = true)
    {a b : Algebra} {e : Expr} (reads : ∀ x ∈ e.names, x ∈ a.scope.fixed)
    {inserted : List Triple} {fullIndexing : Bool} {first second : Clock} {input m n : Bag}
    (above : ((modify (.filter e) (combine combinator a b)).answer
      (Store.ofTriples inserted).dataset ⟨fullIndexing, none⟩ first input).result = .ok m)
    (below : ((combine combinator (modify (.filter e) a) b).answer
      (Store.ofTriples inserted).dataset ⟨fullIndexing, none⟩ second input).result = .ok n) :
    m.solutions = n.solutions := by
  have nodup := nodup_eraseDups inserted
  rw [Store.dataset_ofTriples, result_answer] at above below
  obtain ⟨combined, inner, filtered⟩ := outcome_modify_eq_ok.1 above
  obtain rfl := Except.ok.inj filtered
  obtain ⟨l, onLeft, made⟩ := solutions_evaluate_combine nodup needed inner
  obtain ⟨kept, onKept, madeOfKept⟩ := solutions_evaluate_combine nodup needed below
  obtain ⟨l', onLeft', filteredLeft⟩ := outcome_modify_eq_ok.1 onKept
  obtain rfl := Except.ok.inj filteredLeft
  -- both arrangements evaluate the left child under the input
  obtain rfl := Except.ok.inj (onLeft'.symm.trans onLeft)
  have describes : a.scope.Describes l' :=
    (ensures_evaluate fullIndexing a input).of_outcome onLeft
  have settled : ∀ s ∈ l'.solutions, ∀ t, s.PartOf t → e.holds t = e.holds s := by
    intro s inside t part
    exact Expr.holds_eq_of_partOf (fun x named => describes.fixed s inside x (reads x named)) part
  rw [Bag.solutions_retain, made, madeOfKept, Bag.solutions_retain]
  exact Combinator.filter_meaning needed settled _

end Algebra

/-! One person is asked for by a condition. -/

namespace Sample

def isAnn : Expr :=
  .binary .equal (.var "who") (.const (.iri "ann"))

end Sample

/-- The telephone is found for the person that the condition leaves, whether the other one
is left out before or after. -/
theorem Algebra.filter_pushdown_directory :
    ∃ m n,
      ((modify (.filter Sample.isAnn) Sample.directory).answer
        (Store.ofTriples Sample.facts).dataset ⟨true, none⟩ {} .identity).result = .ok m ∧
      ((combine (.leftJoin none)
        (modify (.filter Sample.isAnn) (Sample.column "office" "room"))
        (modify (.extend ⟨⟨"listed", .const (.ofBool true)⟩, []⟩)
          (Sample.column "phone" "number"))).answer
        (Store.ofTriples Sample.facts).dataset ⟨true, none⟩ {} .identity).result = .ok n ∧
      n.solutions.map (·.get? "number") = [some (.iri "112")] ∧
      m.solutions = n.solutions := by
  obtain ⟨m, above⟩ := answer_of_meaning (modify (.filter Sample.isAnn) Sample.directory)
    Sample.facts rfl true {} .identity
  obtain ⟨n, below⟩ := answer_of_meaning (combine (.leftJoin none)
    (modify (.filter Sample.isAnn) (Sample.column "office" "room"))
    (modify (.extend ⟨⟨"listed", .const (.ofBool true)⟩, []⟩) (Sample.column "phone" "number")))
    Sample.facts rfl true {} .identity
  refine ⟨m, n, above, below, ?_, ?_⟩
  · rw [solutions_answer_identity below]
    rfl
  · exact filter_pushdown rfl (by decide) above below

end TripleAlgebra
