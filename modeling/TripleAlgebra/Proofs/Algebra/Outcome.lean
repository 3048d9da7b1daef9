/-
# TripleAlgebra.Proofs.Algebra.Outcome -- one node of a query at a time

Without a deadline the answer to a query is its outcome (`result_answer`), in which the
checkpoints between the steps do not show.  What is left of a node is said by one
lemma for each kind of operator: a modifier's answer is made of its child's
(`outcome_modify`), and a combinator's of both children's, or is `null` where the left one
has no solution and is needed (`outcome_combine`).
-/
import TripleAlgebra.Context
import TripleAlgebra.Proofs.Evaluation.Run
import TripleAlgebra.Proofs.Failure

namespace TripleAlgebra

set_option autoImplicit false

/-! ## Whole queries -/

/-- An answer is the run of the query after one reading of the clock. -/
theorem Algebra.answer_eq_run (a : Algebra) (d : Dataset) (config : Config) (clock : Clock)
    (input : Bag) :
    a.answer d config clock input =
      (a.evaluate config.fullIndexing input).run d ⟨clock.current, config.timeout⟩
        clock.read.2 := rfl

/-- Without a time budget the answer is the outcome of the query. -/
theorem Algebra.result_answer (a : Algebra) (d : Dataset) (fullIndexing : Bool) (clock : Clock)
    (input : Bag) :
    (a.answer d ⟨fullIndexing, none⟩ clock input).result =
      (a.evaluate fullIndexing input).outcome d := by
  rw [answer_eq_run]
  exact congrArg Evaluation.Transcript.result (Evaluation.run_unlimited d clock.current _ _)

/-! ## Nodes -/

/-- Where the left side is needed it is evaluated under the input as it is. -/
theorem Combinator.leftInput_of_needsLeft {combinator : Combinator}
    (needs : combinator.needsLeft = true) {left right : Algebra} {input : Bag} :
    combinator.leftInput left right input = input := by
  cases combinator with
  | union => cases needs
  | join => rfl
  | leftJoin filter => rfl
  | semiJoin mustExist => rfl
  | minus => rfl

namespace Algebra

open Evaluation

variable {d : Dataset} {fullIndexing : Bool} {input m : Bag}

/-- A modifier is applied to the answer of its child. -/
theorem outcome_modify (d : Dataset) (fullIndexing : Bool) (modifier : Modifier)
    (inner : Algebra) (input : Bag) :
    ((modify modifier inner).evaluate fullIndexing input).outcome d =
      (inner.evaluate fullIndexing (modifier.innerInput input)).outcome d >>=
        modifier.apply := by
  have applied : ∀ answer,
      (ofExcept (modifier.apply answer)).checked.outcome d = modifier.apply answer := by
    intro answer
    rw [outcome_checked]
    cases modifier.apply answer <;> rfl
  rw [evaluate, outcome_bind, outcome_checked, funext applied]

/-- A combinator is applied to the answers of its children, unless the left one has no
solution and is needed. -/
theorem outcome_combine (d : Dataset) (fullIndexing : Bool) (combinator : Combinator)
    (left right : Algebra) (input : Bag) :
    ((combine combinator left right).evaluate fullIndexing input).outcome d =
      (left.evaluate fullIndexing (combinator.leftInput left right input)).outcome d >>= fun l =>
        if (combinator.needsLeft && l.isEmpty) = true then .ok .null
        else
          (right.evaluate fullIndexing (combinator.rightInput left right input l)).outcome d >>=
            fun r => .ok (combinator.apply l r) := by
  rw [evaluate, outcome_bind, outcome_checked]
  refine congrArg _ (funext ?_)
  intro l
  split
  · rfl
  · rw [outcome_bind, outcome_checked]
    simp only [outcome_checked, outcome_pure]

theorem outcome_modify_eq_ok {modifier : Modifier} {inner : Algebra} :
    ((modify modifier inner).evaluate fullIndexing input).outcome d = .ok m ↔
      ∃ answer,
        (inner.evaluate fullIndexing (modifier.innerInput input)).outcome d = .ok answer ∧
          modifier.apply answer = .ok m := by
  rw [outcome_modify]
  exact bind_eq_ok_iff

theorem outcome_combine_eq_ok {combinator : Combinator} {left right : Algebra} :
    ((combine combinator left right).evaluate fullIndexing input).outcome d = .ok m ↔
      ∃ l, (left.evaluate fullIndexing (combinator.leftInput left right input)).outcome d = .ok l ∧
        if (combinator.needsLeft && l.isEmpty) = true then Bag.null = m
        else ∃ r,
          (right.evaluate fullIndexing (combinator.rightInput left right input l)).outcome d =
              .ok r ∧
            combinator.apply l r = m := by
  rw [outcome_combine, bind_eq_ok_iff]
  refine exists_congr ?_
  intro l
  refine and_congr_right ?_
  intro _
  split
  · rw [Except.ok.injEq]
  · rw [bind_eq_ok_iff]
    simp only [Except.ok.injEq]

/-- A combinator has an answer where its children have one under every input. -/
theorem outcome_combine_isOk {combinator : Combinator} {left right : Algebra}
    (onLeft : ∀ given, ∃ l, (left.evaluate fullIndexing given).outcome d = .ok l)
    (onRight : ∀ given, ∃ r, (right.evaluate fullIndexing given).outcome d = .ok r)
    (input : Bag) :
    ∃ m, ((combine combinator left right).evaluate fullIndexing input).outcome d = .ok m := by
  obtain ⟨l, endedLeft⟩ := onLeft (combinator.leftInput left right input)
  obtain ⟨r, endedRight⟩ := onRight (combinator.rightInput left right input l)
  by_cases skipped : (combinator.needsLeft && l.isEmpty) = true
  · refine ⟨.null, outcome_combine_eq_ok.2 ⟨l, endedLeft, ?_⟩⟩
    rw [if_pos skipped]
  · refine ⟨combinator.apply l r, outcome_combine_eq_ok.2 ⟨l, endedLeft, ?_⟩⟩
    rw [if_neg skipped]
    exact ⟨r, endedRight, rfl⟩

end Algebra

/-! ## Sample data

Two people in one office, one of them with a telephone; small enough for whole
evaluations to be computed. -/

namespace Sample

def fact (subject predicate object : String) : Triple :=
  ⟨.iri subject, .iri predicate, .iri object, rfl, rfl⟩

def facts : List Triple :=
  [fact "ann" "office" "e7", fact "bob" "office" "e7", fact "ann" "phone" "112"]

/-- Who has what under a predicate. -/
def column (predicate value : String) : Algebra :=
  .pattern ⟨.var "who", .const (.iri predicate), .var value, rfl⟩

/-- Who is in which room. -/
def inOffice (name : String) : Pattern :=
  ⟨.var name, .const (.iri "office"), .var "room", rfl⟩

/-- People, and for those who have one their telephone with a mark. -/
def directory : Algebra :=
  .combine (.leftJoin none) (column "office" "room")
    (.modify (.extend ⟨⟨"listed", .const (.ofBool true)⟩, []⟩) (column "phone" "number"))

/-- Everyone's office, and all but the first of them again. -/
def offices : Algebra :=
  .combine .union (column "office" "room")
    (.modify (.slice 1 none) (column "office" "room"))

/-- The solution that names a person. -/
def person (name : String) : Solution :=
  Bindings.ofList [("who", .iri name)]

/-- One of the two people. -/
def bob : Bag :=
  .ofSolutions ∅ [Bindings.ofList [("who", .iri "bob")]]

/-- The query that is answered by him. -/
def second : Algebra :=
  .modify (.project ["who"]) (.modify (.slice 1 none) (column "office" "room"))

end Sample

end TripleAlgebra
