/-
# TripleAlgebra.Context -- the surroundings of an evaluation

A context holds what an evaluation works with: the current input, the dataset, the
settings, the clock and the deadline, which begins when the context is made.  It also
keeps the calls made to the dataset until someone takes them.

The input can be replaced for good, or for the length of some other work; `withInput`
puts the former input back whatever that work did and however it ended.
-/
import TripleAlgebra.Algebra.Evaluate
import TripleAlgebra.Config

namespace TripleAlgebra

set_option autoImplicit false

/-- What an evaluation works with. -/
structure Context where
  input : Bag
  dataset : Dataset
  config : Config
  deadline : Deadline
  clock : Clock
  calls : List Call

namespace Context

variable {α : Type}

/-- A new context.  The clock is read once, for the deadline. -/
def start (dataset : Dataset) (config : Config) (clock : Clock) (input : Bag) : Context :=
  let (now, later) := clock.read
  { input, dataset, config, deadline := ⟨now, config.timeout⟩, clock := later, calls := [] }

/-! ## Evaluating -/

/-- Run an evaluation in the context. -/
def run (c : Context) (x : Evaluation α) : Except EvaluationError α × Context :=
  let t := x.run c.dataset c.deadline c.clock
  (t.result, { c with clock := t.clock, calls := c.calls ++ t.calls })

/-- The answer to a query under the current input. -/
def evaluate (c : Context) (a : Algebra) : Except EvaluationError Bag × Context :=
  c.run (a.evaluate c.config.fullIndexing c.input)

/-- The solutions of a pattern under the current input. -/
def matchPattern (c : Context) (p : Pattern) : Except EvaluationError Bag × Context :=
  c.run (p.evaluate c.config.fullIndexing c.input)

/-- Look at the deadline. -/
def check (c : Context) : Except EvaluationError Unit × Context :=
  c.run (.checkpoint (.done ()))

/-- Ask the dataset for one triple. -/
def contains (c : Context) (t : Triple) : Except DatasetError Bool × Context :=
  (c.dataset.contains t, { c with calls := c.calls ++ [.contains t] })

/-- The calls made since they were last taken. -/
def takeCalls (c : Context) : List Call × Context :=
  (c.calls, { c with calls := [] })

/-! ## The input -/

/-- Put another input in place of the current one, which is returned. -/
def replaceInput (c : Context) (input : Bag) : Bag × Context :=
  (c.input, { c with input })

/-- Do some work under another input and put the former one back. -/
def withInput (c : Context) (input : Bag) (work : Context → α × Context) : α × Context :=
  let (result, after) := work { c with input }
  (result, { after with input := c.input })

end Context

/-- The answer to a query over a dataset, with a record of the run. -/
def Algebra.answer (a : Algebra) (dataset : Dataset) (config : Config) (clock : Clock)
    (input : Bag) : Evaluation.Transcript Bag :=
  let (result, c) := (Context.start dataset config clock input).evaluate a
  ⟨result, c.clock, c.calls⟩

end TripleAlgebra
