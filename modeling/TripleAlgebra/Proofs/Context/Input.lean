/-
# TripleAlgebra.Proofs.Context.Input -- which input is current

Steps in a context replace the input for good, or do something under another one for a while.  What
is current after a step can be read off the script: only a replacement at the same level changes
it (`input_takeAll`), and steps under another input leave the former one, whatever they replace and
whether they end well.  So the inputs that a script gets to see are those that stand in it, each as
far as its level goes (`bagsAll_takeAll`): neither data nor time nor any failure has to do with it.

A query that is worked out in the context puts inputs in place at every other node and leaves none
of them behind (`input_scoped`).
-/
import TripleAlgebra.Context.Script
import TripleAlgebra.Dataset.Faulty
import TripleAlgebra.Proofs.Algebra.Outcome
import TripleAlgebra.Proofs.Context.Work
import TripleAlgebra.Proofs.Store.Contents

namespace TripleAlgebra

set_option autoImplicit false

/-! ## Inputs in a script -/

namespace Step

/-- The input that the step puts in place for good. -/
def replacement? : Step → Option Bag
  | .replace other => some other
  | _ => none

/-- The input after some steps: the last one that was put in place for good, or else the one that
was there before. -/
def inputAfter (current : Bag) (steps : List Step) : Bag :=
  (steps.filterMap replacement?).getLastD current

mutual

/-- The inputs that a step gets to see at a place where the given one is current: that one if it
looks at it or replaces it, and inside steps under another input those that they see. -/
def sees (current : Bag) : Step → List Bag
  | .input => [current]
  | .replace _ => [current]
  | .within other steps _ => seesAll other steps
  | _ => []

/-- The inputs that some steps get to see, one after the other. -/
def seesAll (current : Bag) : List Step → List Bag
  | [] => []
  | step :: rest => step.sees current ++ seesAll (step.replacement?.getD current) rest

end

end Step

namespace Reply

mutual

/-- The inputs in a reply, at every depth. -/
def bags : Reply → List Bag
  | bag b => [b]
  | within replies _ => bagsAll replies
  | _ => []

def bagsAll : List Reply → List Bag
  | [] => []
  | reply :: rest => reply.bags ++ bagsAll rest

end

end Reply

namespace Context

theorem inputAfter_cons (current : Bag) (step : Step) (rest : List Step) :
    Step.inputAfter current (step :: rest) =
      Step.inputAfter (step.replacement?.getD current) rest := by
  unfold Step.inputAfter
  cases replaced : step.replacement? with
  | none => rw [List.filterMap_cons_none replaced, Option.getD_none]
  | some other => rw [List.filterMap_cons_some replaced, List.getLastD_cons, Option.getD_some]

/-! ## One step -/

/-- Only a replacement changes the input. -/
theorem input_take (c : Context) (step : Step) :
    (c.take step).2.input = step.replacement?.getD c.input := by
  cases step with
  | contains s p o =>
      simp only [take]
      cases Triple.ofTerms s p o <;> rfl
  | pattern s p o =>
      simp only [take]
      cases Pattern.ofSlots s p o <;> rfl
  | evaluate query => exact (query.runs_work).input_eq c
  | _ => rfl

/-! ## Scripts -/

/-- After a script the last replacement of its own level is in place. -/
theorem input_takeAll (c : Context) (steps : List Step) :
    (c.takeAll steps).2.input = Step.inputAfter c.input steps := by
  induction steps generalizing c with
  | nil => rfl
  | cons step rest ih =>
      have onward : (c.takeAll (step :: rest)).2 = ((c.take step).2.takeAll rest).2 := rfl
      rw [onward, ih, input_take, inputAfter_cons]

mutual

theorem bags_take (c : Context) : (step : Step) → (c.take step).1.bags = step.sees c.input
  | .within other steps _ => bagsAll_takeAll { c with input := other } steps
  | .contains s p o => by
      simp only [take]
      cases Triple.ofTerms s p o <;> rfl
  | .pattern s p o => by
      simp only [take]
      cases Pattern.ofSlots s p o <;> rfl
  | .input | .replace _ | .config | .check | .evaluate _ | .clock _ => rfl

/-- What a script gets to see stands in it. -/
theorem bagsAll_takeAll (c : Context) :
    (steps : List Step) → Reply.bagsAll (c.takeAll steps).1 = Step.seesAll c.input steps
  | [] => rfl
  | step :: rest => by
      have first := bags_take c step
      have later := bagsAll_takeAll (c.take step).2 rest
      rw [input_take] at later
      rw [Step.seesAll, ← first, ← later]
      rfl

end

/-- **An input is current at its own level and nowhere else.**  Whatever the context, its dataset,
deadline and clock,

* work under another input, of whatever kind and however it ends, leaves the former input;
* so do steps under another input, which return the number of solutions of the one that their own
  replacements leave, unless they fail;
* a replacement returns the former input and stays in place: after a script the current input is
  the last replacement of the script's own level, or the one from before if there is none;
* at every depth of a script, the inputs that it gets to see are those that stand in it at that
  place;
* working out a query gives the same answer or error as evaluating it under the current input, with
  the same calls and readings of the clock, and the input is as before. -/
theorem input_scoped (c : Context) :
    (∀ (α : Type) (other : Bag) (work : Context → α × Context),
      (c.withInput other work).2.input = c.input) ∧
    (∀ other steps failure, (c.take (.within other steps failure)).2.input = c.input ∧
      ∃ replies, (c.take (.within other steps failure)).1 = .within replies
        (match failure with
        | some e => .error e
        | none => .ok (Step.inputAfter other steps).length)) ∧
    (∀ other, c.take (.replace other) = (.bag c.input, { c with input := other })) ∧
    (∀ steps, (c.takeAll steps).2.input = Step.inputAfter c.input steps) ∧
    (∀ steps, Reply.bagsAll (c.takeAll steps).1 = Step.seesAll c.input steps) ∧
    ∀ query : Algebra, query.work c = c.evaluate query ∧ (query.work c).2.input = c.input := by
  refine ⟨fun _ _ _ => rfl, ?_, fun _ => rfl, c.input_takeAll, c.bagsAll_takeAll, ?_⟩
  · intro other steps failure
    refine ⟨rfl, (takeAll { c with input := other } steps).1, ?_⟩
    have inner := input_takeAll { c with input := other } steps
    cases failure with
    | none =>
        show Reply.within _ (.ok (takeAll { c with input := other } steps).2.input.length) = _
        rw [inner]
    | some e => rfl
  · intro query
    exact ⟨query.runs_work c, query.runs_work.input_eq c⟩

/-- Where nothing is known of telephones, the right side of an optional join fails while the left
answer is its input.  The script sees the inputs that stand in it all the same. -/
example :
    let c := Context.start ((Dataset.listing Sample.facts).poisoned (.iri "phone")) {} {} .identity
    let script : List Step :=
      [.within .null [.replace Sample.bob, .evaluate Sample.directory, .input]
        (some (.rebinding "who" 0)), .input]
    (Sample.directory.work c).1 = .error (.dataset (.unavailable "lookup of <phone> failed")) ∧
    Reply.bagsAll (c.takeAll script).1 = [.null, Sample.bob, .identity] :=
  ⟨rfl, rfl⟩

end Context

end TripleAlgebra
