/-
# TripleAlgebra.Context.Script -- steps to take in a context

A script is a list of steps: look at the input or replace it, ask the dataset, match
a pattern, evaluate a query, look at the deadline, work the clock, or take further
steps under another input.  Every step is answered; one that fails is answered by its
error, and the script goes on.
-/
import TripleAlgebra.Context.Work

namespace TripleAlgebra

set_option autoImplicit false

/-- One thing to do in a context. -/
inductive Step where
  | input
  | replace (input : Bag)
  | config
  | contains (subject predicate object : Term)
  | check
  | pattern (subject predicate object : Slot)
  | evaluate (query : Algebra)
  /-- Take some steps under another input.  They end with the given error, or else
  return the number of solutions of the input they leave. -/
  | within (input : Bag) (steps : List Step) (failure : Option EvaluationError)
  | clock (step : Clock.Step)

/-- Why no test for a triple could be made, or how it failed. -/
inductive TestError where
  | triple (cause : TripleError)
  | dataset (cause : DatasetError)
deriving DecidableEq

/-- What a step is answered by. -/
inductive Reply where
  | bag (b : Bag)
  | config (c : Config)
  | presence (answer : Except TestError Bool)
  | checked (answer : Except EvaluationError Unit)
  /-- Three slots that form no pattern. -/
  | refused (cause : PatternError)
  /-- An answer with the calls made since the last report. -/
  | report (answer : Except EvaluationError Bag) (calls : List Call)
  | within (replies : List Reply) (returned : Except EvaluationError Nat)
  | clock (reply : Clock.Reply)

namespace Context

/-- The answer of a query or a pattern, with the calls made since the last report. -/
def report (answered : Except EvaluationError Bag × Context) : Reply × Context :=
  let (calls, after) := answered.2.takeCalls
  (.report answered.1 calls, after)

mutual

/-- Take one step. -/
def take (c : Context) : Step → Reply × Context
  | .input => (.bag c.input, c)
  | .replace input =>
      let (previous, after) := c.replaceInput input
      (.bag previous, after)
  | .config => (.config c.config, c)
  | .contains s p o =>
      match Triple.ofTerms s p o with
      | .error cause => (.presence (.error (.triple cause)), c)
      | .ok t =>
          let (answer, after) := c.contains t
          (.presence (answer.mapError .dataset), after)
  | .check =>
      let (answer, after) := c.check
      (.checked answer, after)
  | .pattern s p o =>
      match Pattern.ofSlots s p o with
      | .error cause => (.refused cause, c)
      | .ok p => report (c.matchPattern p)
  | .evaluate query => report (query.work c)
  | .within input steps failure =>
      let ((replies, returned), after) := c.withInput input fun inner =>
        let (replies, after) := takeAll inner steps
        let returned := match failure with
          | some e => .error e
          | none => .ok after.input.length
        ((replies, returned), after)
      (.within replies returned, after)
  | .clock step =>
      let (reply, clock) := c.clock.work step
      (.clock reply, { c with clock })

/-- Take steps one after the other. -/
def takeAll (c : Context) : List Step → List Reply × Context
  | [] => ([], c)
  | step :: rest =>
      let (reply, next) := take c step
      let (replies, last) := takeAll next rest
      (reply :: replies, last)

end

end Context

end TripleAlgebra
