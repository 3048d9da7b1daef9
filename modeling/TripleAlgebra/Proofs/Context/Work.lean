/-
# TripleAlgebra.Proofs.Context.Work -- a query worked out is a run of its evaluation

Work in a context puts inputs in place and takes them away again; an evaluation is told its input
and never has one.  `Work.Runs w x` says that, in every context, the work does what a run of the
evaluation made for that context's settings and input does: the same value or the same error, and
the same context afterwards.  A run moves the clock and adds calls, so work of this kind leaves
the input alone (`Work.Runs.input_eq`), whatever inputs it has put in place on the way and
wherever it has failed.

The relation passes through sequences (`Work.Runs.bind`) and through work under another input
(`Work.Runs.under`), and a query is made of these (`Algebra.runs_work`).  So its answer may be
worked out in a new context (`Algebra.answer_eq_work`).
-/
import TripleAlgebra.Context.Work
import TripleAlgebra.Proofs.Evaluation.Run

namespace TripleAlgebra

set_option autoImplicit false

variable {α β : Type}

/-! ## Sequences -/

theorem Context.run_pure (c : Context) (a : α) :
    c.run (pure a : Evaluation α) = (.ok a, c) := by
  show (Except.ok a, { c with calls := c.calls ++ [] }) = _
  rw [List.append_nil]

theorem Context.run_failed (c : Context) (e : EvaluationError) :
    c.run (.failed e : Evaluation α) = (.error e, c) := by
  show (Except.error e, { c with calls := c.calls ++ [] }) = _
  rw [List.append_nil]

/-- Go on where work has ended with a value. -/
def Context.goOn (next : α → Context → Except EvaluationError β × Context) :
    Except EvaluationError α × Context → Except EvaluationError β × Context
  | (.ok a, after) => next a after
  | (.error e, after) => (.error e, after)

theorem Work.bind_apply (w : Work α) (f : α → Work β) (c : Context) :
    (w >>= f) c = Context.goOn f (w c) := by
  show (ExceptT.bindCont f (w c).1) (w c).2 = _
  rcases w c with ⟨result, after⟩
  cases result <;> rfl

theorem Context.run_bind (c : Context) (x : Evaluation α) (f : α → Evaluation β) :
    c.run (x >>= f) = Context.goOn (fun a after => after.run (f a)) (c.run x) := by
  simp only [Context.run, Evaluation.run_bind]
  rcases x.run c.dataset c.deadline c.clock with ⟨result, clock, calls⟩
  cases result with
  | ok a => simp [Evaluation.Transcript.andThen, Context.goOn]
  | error e => rfl

/-! ## Work that is a run -/

/-- In every context the work does what a run of the evaluation does that is made for the settings
and the input of the context. -/
def Work.Runs (w : Work α) (x : Bool → Bag → Evaluation α) : Prop :=
  ∀ c : Context, w c = c.run (x c.config.fullIndexing c.input)

namespace Work.Runs

variable {w : Work α} {x : Bool → Bag → Evaluation α}

/-- A run leaves the input as it found it. -/
theorem input_eq (runs : w.Runs x) (c : Context) : (w c).2.input = c.input := by
  rw [runs c]
  rfl

theorem pure (a : α) : Runs (Pure.pure a) fun _ _ => Pure.pure a :=
  fun c => (c.run_pure a).symm

theorem input : Runs Work.input fun _ input => Pure.pure input :=
  fun c => (c.run_pure c.input).symm

theorem check : Runs Work.check fun _ _ => .checkpoint (.done ()) :=
  fun _ => rfl

theorem matching (p : Pattern) : Runs (Work.matching p) p.evaluate :=
  fun _ => rfl

theorem step (made : Except EvaluationError α) :
    Runs (Work.step made) fun _ _ => Evaluation.ofExcept made := by
  intro c
  cases made with
  | ok a => exact (c.run_pure a).symm
  | error e => exact (c.run_failed e).symm

theorem bind {f : α → Work β} {y : α → Bool → Bag → Evaluation β} (first : w.Runs x)
    (next : ∀ a, (f a).Runs (y a)) :
    Runs (w >>= f) fun fullIndexing input =>
      x fullIndexing input >>= fun a => y a fullIndexing input := by
  intro c
  rw [Work.bind_apply, first c, Context.run_bind]
  -- the second run finds the settings and the input of the first one
  have settings : (c.run (x c.config.fullIndexing c.input)).2.config = c.config := rfl
  have found : (c.run (x c.config.fullIndexing c.input)).2.input = c.input := rfl
  generalize c.run (x c.config.fullIndexing c.input) = ended at settings found ⊢
  rcases ended with ⟨result, after⟩
  cases result with
  | ok a =>
      change after.config = c.config at settings
      change after.input = c.input at found
      show f a after = after.run (y a c.config.fullIndexing c.input)
      rw [next a after, settings, found]
  | error e => rfl

/-- Work that begins by reading the input. -/
theorem read {f : Bag → Work α} {y : Bag → Bool → Bag → Evaluation α}
    (next : ∀ outer, (f outer).Runs (y outer)) :
    Runs (Work.input >>= f) fun fullIndexing input => y input fullIndexing input :=
  input.bind next

theorem checked (runs : w.Runs x) :
    Runs w.checked fun fullIndexing input => (x fullIndexing input).checked :=
  runs.bind fun a => check.bind fun _ => pure a

/-- Under another input the work is a run of the evaluation for that input. -/
theorem under (runs : w.Runs x) (other : Bag) :
    Runs (Work.under other w) fun fullIndexing _ => x fullIndexing other := by
  intro c
  have inner := runs { c with input := other }
  show ((w _).1, { (w _).2 with input := c.input }) = _
  rw [inner]
  rfl

end Work.Runs

/-! ## Queries -/

theorem runs_workChain (answer : Bag) (ps : List Pattern) :
    (workChain answer ps).Runs fun fullIndexing _ => evaluateChain fullIndexing answer ps := by
  induction ps generalizing answer with
  | nil => exact Work.Runs.pure answer
  | cons p rest ih =>
      unfold workChain evaluateChain
      split
      · exact Work.Runs.pure Bag.null
      · refine ((Work.Runs.matching p).under answer).checked.bind ?_
        intro found
        refine (Work.Runs.pure (answer.join found)).checked.bind ?_
        exact ih

theorem runs_workBgp (ps : List Pattern) :
    (workBgp ps).Runs fun fullIndexing => evaluateBgp fullIndexing ps := by
  cases ps with
  | nil => exact Work.Runs.pure Bag.identity
  | cons p rest =>
      refine (Work.Runs.matching p).checked.bind ?_
      intro answer
      exact runs_workChain answer rest

theorem Modifier.runs_onInner (modifier : Modifier) {w : Work Bag}
    {x : Bool → Bag → Evaluation Bag} (runs : w.Runs x) :
    (modifier.onInner w).Runs fun fullIndexing input =>
      x fullIndexing (modifier.innerInput input) := by
  cases modifier with
  | project names => exact runs.under .identity
  | slice offset limit => exact runs.under .identity
  | extend assignments => exact runs
  | filter condition => exact runs
  | distinct => exact runs

theorem Combinator.runs_onLeft (combinator : Combinator) (left right : Algebra) {w : Work Bag}
    {x : Bool → Bag → Evaluation Bag} (runs : w.Runs x) :
    (combinator.onLeft left right w).Runs fun fullIndexing input =>
      x fullIndexing (combinator.leftInput left right input) := by
  cases combinator with
  | union =>
      have installed := Work.Runs.read fun input =>
        runs.under (Combinator.union.leftInput left right input)
      exact installed
  | join => exact runs
  | leftJoin filter => exact runs
  | semiJoin mustExist => exact runs
  | minus => exact runs

theorem Combinator.runs_onRight (combinator : Combinator) (left right : Algebra)
    (outer leftAnswer : Bag) {w : Work Bag} {x : Bool → Bag → Evaluation Bag} (runs : w.Runs x) :
    (combinator.onRight left right outer leftAnswer w).Runs (fun fullIndexing _ =>
      if combinator.needsLeft && leftAnswer.isEmpty then return .null
      else do
        let rightInput := combinator.rightInput left right outer leftAnswer
        let rightAnswer ← (x fullIndexing rightInput).checked
        (pure (combinator.apply leftAnswer rightAnswer) : Evaluation Bag).checked) := by
  unfold onRight
  split
  · exact Work.Runs.pure Bag.null
  · refine (runs.under _).checked.bind ?_
    intro rightAnswer
    exact (Work.Runs.pure _).checked

/-- **Working out a query is a run of its evaluation.** -/
theorem Algebra.runs_work (a : Algebra) :
    a.work.Runs fun fullIndexing => a.evaluate fullIndexing := by
  induction a with
  | pattern p => exact (Work.Runs.matching p).checked
  | bgp ps => exact runs_workBgp ps
  | modify modifier inner ih =>
      refine (modifier.runs_onInner ih).checked.bind ?_
      intro answer
      exact (Work.Runs.step (modifier.apply answer)).checked
  | combine combinator left right ihLeft ihRight =>
      have children := Work.Runs.read fun outer =>
        (combinator.runs_onLeft left right ihLeft).checked.bind fun leftAnswer =>
          combinator.runs_onRight left right outer leftAnswer ihRight
      exact children

/-- The answer to a query is what it comes to when it is worked out in a new context. -/
theorem Algebra.answer_eq_work (a : Algebra) (d : Dataset) (config : Config) (clock : Clock)
    (input : Bag) :
    a.answer d config clock input =
      let ended := a.work (Context.start d config clock input)
      ⟨ended.1, ended.2.clock, ended.2.calls⟩ := by
  rw [a.runs_work]
  rfl

end TripleAlgebra
