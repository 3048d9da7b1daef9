/-
# TripleAlgebra.Bag.Effectful -- tests that keep a state of their own

`retain` and `leftJoin` with a test that runs in a monad.  The test is asked once for
each solution, in order; for `leftJoinM` once for each merged pair, the left solutions
in order and for each of them the right ones in order.  A test without effects gives
the plain operation (`retainM_pure`, `leftJoinM_pure`).
-/
import TripleAlgebra.Bag

namespace TripleAlgebra

set_option autoImplicit false

universe u

variable {m : Type → Type u} [Monad m]

/-- The elements that pass a test, asked once for each from left to right. -/
def keepM {α : Type} (test : α → m Bool) : List α → m (List α)
  | [] => pure []
  | a :: rest => do
      let kept ← test a
      let others ← keepM test rest
      return if kept then a :: others else others

theorem keepM_pure [LawfulMonad m] {α : Type} (test : α → Bool) (l : List α) :
    keepM (m := m) (fun a => pure (test a)) l = pure (l.filter test) := by
  induction l with
  | nil => rfl
  | cons a rest ih => simp [keepM, ih, List.filter_cons]

namespace Bag

/-- `retain` with a test that has effects. -/
def retainM (keep : Solution → m Bool) : Bag → m Bag
  | null => pure null
  | identity => do return if ← keep ∅ then identity else empty ∅
  | regular names solutions => do return regular names (← keepM keep solutions)

/-- `optionalMatches` with a test that has effects. -/
def optionalMatchesM (accept : Solution → m Bool) (right : List Solution) :
    List Solution → m (List Solution)
  | [] => pure []
  | s :: rest => do
      let merged ← keepM accept (right.filterMap s.merge)
      let others ← optionalMatchesM accept right rest
      return (if merged.isEmpty then [s] else merged) ++ others

/-- `leftJoin` with a test that has effects. -/
def leftJoinM (a b : Bag) (accept : Solution → m Bool) : m Bag :=
  match a with
  | null => pure null
  | a => do
      let solutions ← optionalMatchesM accept b.solutions a.solutions
      return ofSolutions (a.names ∪ b.names) solutions

theorem retainM_pure [LawfulMonad m] (keep : Solution → Bool) (b : Bag) :
    b.retainM (m := m) (fun s => pure (keep s)) = pure (b.retain keep) := by
  cases b <;> simp [retainM, retain, keepM_pure]

theorem optionalMatchesM_pure [LawfulMonad m] (accept : Solution → Bool)
    (left right : List Solution) :
    optionalMatchesM (m := m) (fun s => pure (accept s)) right left =
      pure (optionalMatches accept left right) := by
  induction left with
  | nil => rfl
  | cons s rest ih =>
      simp only [optionalMatchesM, keepM_pure, ih, pure_bind, optionalMatches, List.flatMap_cons]

theorem leftJoinM_pure [LawfulMonad m] (a b : Bag) (accept : Solution → Bool) :
    a.leftJoinM (m := m) b (fun s => pure (accept s)) = pure (a.leftJoin b accept) := by
  cases a <;> simp [leftJoinM, leftJoin, optionalMatchesM_pure]

end Bag

end TripleAlgebra
