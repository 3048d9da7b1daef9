/-
# TripleAlgebra.Evaluation -- a computation that asks a dataset and watches the time

An evaluation is a tree of what may happen: it asks the dataset for triples and goes
on with the answer, it passes a checkpoint, or it ends with a value or an error.  The
tree itself knows neither data nor time.  `Evaluation.run` walks through it with a
dataset, a deadline and a clock, and returns the result with a record of every call
made and the clock as it is left.

A call that fails ends the run with the dataset's error, and a checkpoint after the
deadline ends it with a timeout; so the first failure is what a run reports, and
nothing is asked after it.
-/
import TripleAlgebra.Clock
import TripleAlgebra.Dataset

namespace TripleAlgebra

set_option autoImplicit false

/-! ## Errors -/

/-- Why an evaluation ended without a value. -/
inductive EvaluationError where
  /-- The time budget is spent. -/
  | timeout (limit elapsed : Nat)
  /-- The dataset did not answer. -/
  | dataset (cause : DatasetError)
  /-- The dataset answered a scan with a triple that lacks a term of the key. -/
  | contract (path : IndexPath) (expectation : String)
  /-- An assignment would change a bound variable. -/
  | rebinding (name : String) (index : Nat)
deriving DecidableEq

namespace EvaluationError

def message : EvaluationError → String
  | timeout limit elapsed =>
      "query timed out after " ++ elapsed.repr ++ "ms (limit " ++ limit.repr ++ "ms)"
  | dataset cause => "dataset error: " ++ cause.message
  | contract path expectation =>
      "dataset violated " ++ path.text ++ " lookup: expected " ++ expectation
  | rebinding name index =>
      "extend would rebind " ++ variableText name ++ " to a different value in solution " ++
        index.repr

/-- The messages of the errors behind this one, outermost first. -/
def sources : EvaluationError → List String
  | dataset cause => cause.message :: cause.sources
  | _ => []

end EvaluationError

/-! ## Checkpoints -/

/-- The clock after a look at the deadline, and whether to go on.  Without a limit the
clock is not read. -/
def Deadline.check (d : Deadline) (clock : Clock) :
    Except EvaluationError Unit × Clock :=
  match d.limit with
  | none => (.ok (), clock)
  | some limit =>
      let (now, later) := clock.read
      if d.isExpired now then (.error (.timeout limit (d.elapsed now)), later)
      else (.ok (), later)

/-! ## Evaluations -/

/-- A computation over a dataset. -/
inductive Evaluation (α : Type) where
  | done (value : α)
  | failed (error : EvaluationError)
  /-- Stop here if the deadline has passed. -/
  | checkpoint (next : Evaluation α)
  /-- Ask for the triples of a scan. -/
  | scan (access : Access) (next : List Triple → Evaluation α)
  /-- Ask whether a triple is there. -/
  | test (triple : Triple) (next : Bool → Evaluation α)

namespace Evaluation

variable {α β γ : Type}

/-- Go on with the value of an evaluation. -/
def bind : Evaluation α → (α → Evaluation β) → Evaluation β
  | done a, f => f a
  | failed e, _ => failed e
  | checkpoint next, f => checkpoint (next.bind f)
  | scan access next, f => scan access fun triples => (next triples).bind f
  | test triple next, f => test triple fun present => (next present).bind f

instance : Monad Evaluation where
  pure := done
  bind := bind

theorem bind_done (x : Evaluation α) : x.bind done = x := by
  induction x with
  | done => rfl
  | failed => rfl
  | checkpoint _ ih => simp [bind, ih]
  | scan _ _ ih => simp [bind, ih]
  | test _ _ ih => simp [bind, ih]

theorem bind_bind (x : Evaluation α) (f : α → Evaluation β) (g : β → Evaluation γ) :
    (x.bind f).bind g = x.bind fun a => (f a).bind g := by
  induction x with
  | done => rfl
  | failed => rfl
  | checkpoint _ ih => simp [bind, ih]
  | scan _ _ ih => simp [bind, ih]
  | test _ _ ih => simp [bind, ih]

instance : LawfulMonad Evaluation :=
  LawfulMonad.mk' Evaluation bind_done (fun _ _ => rfl) bind_bind

/-- The evaluation with a checkpoint at its end. -/
def checked (x : Evaluation α) : Evaluation α :=
  x.bind fun a => checkpoint (done a)

/-! ## Running -/

/-- What a run leaves behind: its result, the clock, and the calls in the order in
which they were made. -/
structure Transcript (α : Type) where
  result : Except EvaluationError α
  clock : Clock
  calls : List Call

/-- The transcript with one more call in front. -/
def Transcript.after (call : Call) (t : Transcript α) : Transcript α :=
  { t with calls := call :: t.calls }

/-- Walk through an evaluation. -/
def run (dataset : Dataset) (deadline : Deadline) : Evaluation α → Clock → Transcript α
  | done a, clock => ⟨.ok a, clock, []⟩
  | failed e, clock => ⟨.error e, clock, []⟩
  | checkpoint next, clock =>
      match deadline.check clock with
      | (.ok (), later) => run dataset deadline next later
      | (.error e, later) => ⟨.error e, later, []⟩
  | scan access next, clock =>
      match dataset.scan access with
      | .ok triples => (run dataset deadline (next triples) clock).after (.scan access)
      | .error cause => ⟨.error (.dataset cause), clock, [.scan access]⟩
  | test triple next, clock =>
      match dataset.contains triple with
      | .ok present => (run dataset deadline (next present) clock).after (.contains triple)
      | .error cause => ⟨.error (.dataset cause), clock, [.contains triple]⟩

end Evaluation

end TripleAlgebra
