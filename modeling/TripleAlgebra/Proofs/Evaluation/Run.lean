/-
# TripleAlgebra.Proofs.Evaluation.Run -- what can be said of a run

Six views of an evaluation, each of which passes through `bind`:

* its run, which for a sequence is the second run after the first (`run_bind`);
* its outcome over a dataset when no deadline is set, and the calls made on the way, in
  which neither clock nor checkpoints occur (`outcome`, `calls`, `run_unlimited`);
* what is left of it without its checkpoints, which runs as it does when no deadline is set
  (`untimed`, `run_untimed`);
* what holds of every value it may end with, whatever a dataset answers (`Ensures`);
* which errors it may end with on its own account (`Raises`);
* which other evaluations run like it, with as many calls but perhaps to other paths
  (`Alike`).

Statements about queries are proved of the outcome or of `Ensures`, where a query is a
plain recursion, and reach the run at the end.
-/
import TripleAlgebra.Evaluation

namespace TripleAlgebra.Evaluation

set_option autoImplicit false

variable {α β : Type}

/-! ## Runs in sequence -/

/-- Go on with the value and the clock that a run has left; its calls come first. -/
def Transcript.andThen (t : Transcript α) (next : α → Clock → Transcript β) : Transcript β :=
  match t.result with
  | .ok a =>
      let later := next a t.clock
      { later with calls := t.calls ++ later.calls }
  | .error e => ⟨.error e, t.clock, t.calls⟩

theorem Transcript.andThen_after (t : Transcript α) (call : Call)
    (next : α → Clock → Transcript β) :
    (t.after call).andThen next = (t.andThen next).after call := by
  obtain ⟨result, clock, calls⟩ := t
  cases result <;> rfl

/-- The run of a sequence. -/
theorem run_bind (d : Dataset) (deadline : Deadline) (x : Evaluation α) (f : α → Evaluation β)
    (clock : Clock) :
    (x >>= f).run d deadline clock =
      (x.run d deadline clock).andThen fun a later => (f a).run d deadline later := by
  show (x.bind f).run d deadline clock = _
  induction x generalizing clock with
  | done a => rfl
  | failed e => rfl
  | checkpoint next ih =>
      simp only [bind, run]
      split
      · exact ih _
      · rfl
  | scan access next ih =>
      simp only [bind, run]
      cases d.scan access with
      | ok triples => simp only [ih, Transcript.andThen_after]
      | error cause => rfl
  | test triple next ih =>
      simp only [bind, run]
      cases d.contains triple with
      | ok present => simp only [ih, Transcript.andThen_after]
      | error cause => rfl

/-! ## Outcomes -/

/-- What an evaluation comes to over a dataset when it may take as long as it likes. -/
def outcome (d : Dataset) : Evaluation α → Except EvaluationError α
  | done a => .ok a
  | failed e => .error e
  | checkpoint next => next.outcome d
  | scan access next =>
      match d.scan access with
      | .ok triples => (next triples).outcome d
      | .error cause => .error (.dataset cause)
  | test triple next =>
      match d.contains triple with
      | .ok present => (next present).outcome d
      | .error cause => .error (.dataset cause)

@[simp] theorem outcome_pure (d : Dataset) (a : α) :
    (pure a : Evaluation α).outcome d = .ok a := rfl

theorem outcome_bind (d : Dataset) (x : Evaluation α) (f : α → Evaluation β) :
    (x >>= f).outcome d = x.outcome d >>= fun a => (f a).outcome d := by
  show (x.bind f).outcome d = _
  induction x with
  | done a => rfl
  | failed e => rfl
  | checkpoint next ih => exact ih
  | scan access next ih =>
      simp only [bind, outcome]
      cases d.scan access with
      | ok triples => exact ih triples
      | error cause => rfl
  | test triple next ih =>
      simp only [bind, outcome]
      cases d.contains triple with
      | ok present => exact ih present
      | error cause => rfl

/-- A checkpoint at the end does not change the outcome. -/
@[simp] theorem outcome_checked (d : Dataset) (x : Evaluation α) :
    x.checked.outcome d = x.outcome d := by
  have through := outcome_bind d x fun a => checkpoint (done a)
  refine Eq.trans through ?_
  cases x.outcome d <;> rfl

/-- The calls that an evaluation makes over a dataset when it may take as long as it
likes. -/
def calls (d : Dataset) : Evaluation α → List Call
  | done _ => []
  | failed _ => []
  | checkpoint next => next.calls d
  | scan access next =>
      .scan access :: match d.scan access with
        | .ok triples => (next triples).calls d
        | .error _ => []
  | test triple next =>
      .contains triple :: match d.contains triple with
        | .ok present => (next present).calls d
        | .error _ => []

/-- Without a limit a run comes to the outcome, makes all its calls and leaves the clock
alone. -/
theorem run_unlimited (d : Dataset) (start : Nat) (x : Evaluation α) (clock : Clock) :
    x.run d ⟨start, none⟩ clock = ⟨x.outcome d, clock, x.calls d⟩ := by
  induction x with
  | done a => rfl
  | failed e => rfl
  | checkpoint next ih => exact ih
  | scan access next ih =>
      simp only [run, outcome, calls]
      cases d.scan access with
      | ok triples => exact congrArg (Transcript.after _) (ih triples)
      | error cause => rfl
  | test triple next ih =>
      simp only [run, outcome, calls]
      cases d.contains triple with
      | ok present => exact congrArg (Transcript.after _) (ih present)
      | error cause => rfl

/-! ## Without checkpoints -/

/-- The evaluation without its checkpoints. -/
def untimed : Evaluation α → Evaluation α
  | done a => done a
  | failed e => failed e
  | checkpoint next => next.untimed
  | scan access next => scan access fun triples => (next triples).untimed
  | test triple next => test triple fun present => (next present).untimed

@[simp] theorem untimed_pure (a : α) : (pure a : Evaluation α).untimed = pure a := rfl

theorem untimed_bind (x : Evaluation α) (f : α → Evaluation β) :
    (x >>= f).untimed = x.untimed >>= fun a => (f a).untimed := by
  show (x.bind f).untimed = x.untimed.bind fun a => (f a).untimed
  induction x with
  | done a => rfl
  | failed e => rfl
  | checkpoint next ih => exact ih
  | scan access next ih => exact congrArg (scan access) (funext ih)
  | test triple next ih => exact congrArg (test triple) (funext ih)

@[simp] theorem untimed_checked (x : Evaluation α) : x.checked.untimed = x.untimed :=
  (untimed_bind x fun a => checkpoint (done a)).trans (bind_done x.untimed)

/-- Without a limit nothing is seen of the checkpoints. -/
theorem run_untimed (d : Dataset) (start : Nat) (x : Evaluation α) (clock : Clock) :
    x.untimed.run d ⟨start, none⟩ clock = x.run d ⟨start, none⟩ clock := by
  induction x with
  | done a => rfl
  | failed e => rfl
  | checkpoint next ih => exact ih
  | scan access next ih => simp only [untimed, run, ih]
  | test triple next ih => simp only [untimed, run, ih]

/-! ## Whatever the dataset answers -/

/-- Every value with which the evaluation may end, over any dataset, satisfies the
condition. -/
def Ensures (post : α → Prop) : Evaluation α → Prop
  | done a => post a
  | failed _ => True
  | checkpoint next => next.Ensures post
  | scan _ next => ∀ triples, (next triples).Ensures post
  | test _ next => ∀ present, (next present).Ensures post

namespace Ensures

theorem pure {post : α → Prop} {a : α} (holds : post a) :
    Ensures post (Pure.pure a : Evaluation α) := holds

theorem bind {mid : α → Prop} {post : β → Prop} {x : Evaluation α} {f : α → Evaluation β}
    (first : x.Ensures mid) (next : ∀ a, mid a → (f a).Ensures post) :
    (x >>= f).Ensures post := by
  show (x.bind f).Ensures post
  induction x with
  | done a => exact next a first
  | failed e => trivial
  | checkpoint _ ih => exact ih first
  | scan access _ ih => exact fun triples => ih triples (first triples)
  | test triple _ ih => exact fun present => ih present (first present)

theorem checked {post : α → Prop} {x : Evaluation α} (ensures : x.Ensures post) :
    x.checked.Ensures post :=
  ensures.bind fun _ holds => holds

/-- What is ensured holds of the value of every run. -/
theorem of_run {post : α → Prop} {x : Evaluation α} (ensures : x.Ensures post) {d : Dataset}
    {deadline : Deadline} {clock : Clock} {a : α}
    (ended : (x.run d deadline clock).result = .ok a) : post a := by
  induction x generalizing clock with
  | done b =>
      cases ended
      exact ensures
  | failed e => cases ended
  | checkpoint next ih =>
      simp only [run] at ended
      split at ended
      · exact ih ensures ended
      · cases ended
  | scan access next ih =>
      simp only [run] at ended
      cases answer : d.scan access with
      | ok triples =>
          rw [answer] at ended
          exact ih triples (ensures triples) ended
      | error cause =>
          rw [answer] at ended
          cases ended
  | test triple next ih =>
      simp only [run] at ended
      cases answer : d.contains triple with
      | ok present =>
          rw [answer] at ended
          exact ih present (ensures present) ended
      | error cause =>
          rw [answer] at ended
          cases ended

/-- What is ensured holds of the value that an evaluation comes to. -/
theorem of_outcome {post : α → Prop} {x : Evaluation α} (ensures : x.Ensures post) {d : Dataset}
    {a : α} (ended : x.outcome d = .ok a) : post a := by
  have untimed : (x.run d ⟨0, none⟩ {}).result = .ok a := by
    rw [run_unlimited]
    exact ended
  exact ensures.of_run untimed

end Ensures

/-! ## Whatever goes wrong -/

/-- Every error that the evaluation itself may end with, over any dataset, satisfies the
condition.  Timeouts and failures of the dataset are not its own. -/
def Raises (possible : EvaluationError → Prop) : Evaluation α → Prop
  | done _ => True
  | failed e => possible e
  | checkpoint next => next.Raises possible
  | scan _ next => ∀ triples, (next triples).Raises possible
  | test _ next => ∀ present, (next present).Raises possible

namespace Raises

variable {possible : EvaluationError → Prop}

theorem pure (a : α) : Raises possible (Pure.pure a : Evaluation α) := trivial

theorem bind {x : Evaluation α} {f : α → Evaluation β} (first : x.Raises possible)
    (next : ∀ a, (f a).Raises possible) : (x >>= f).Raises possible := by
  show (x.bind f).Raises possible
  induction x with
  | done a => exact next a
  | failed e => exact first
  | checkpoint _ ih => exact ih first
  | scan access _ ih => exact fun triples => ih triples (first triples)
  | test triple _ ih => exact fun present => ih present (first present)

theorem checked {x : Evaluation α} (raises : x.Raises possible) : x.checked.Raises possible :=
  raises.bind fun _ => trivial

/-- An outcome fails by an error of the evaluation's own or of the dataset. -/
theorem of_outcome {x : Evaluation α} (raises : x.Raises possible) {d : Dataset}
    {e : EvaluationError} (ended : x.outcome d = .error e) :
    possible e ∨ ∃ cause, e = .dataset cause := by
  induction x with
  | done a => cases ended
  | failed e' =>
      obtain rfl := Except.error.inj ended
      exact Or.inl raises
  | checkpoint next ih => exact ih raises ended
  | scan access next ih =>
      simp only [outcome] at ended
      cases answer : d.scan access with
      | ok triples =>
          rw [answer] at ended
          exact ih triples (raises triples) ended
      | error cause =>
          rw [answer] at ended
          exact Or.inr ⟨cause, (Except.error.inj ended).symm⟩
  | test triple next ih =>
      simp only [outcome] at ended
      cases answer : d.contains triple with
      | ok present =>
          rw [answer] at ended
          exact ih present (raises present) ended
      | error cause =>
          rw [answer] at ended
          exact Or.inr ⟨cause, (Except.error.inj ended).symm⟩

end Raises

/-! ## Runs that look the same -/

/-- Two runs end alike: with one result, at one time, after as many calls. -/
structure Transcript.Alike (s t : Transcript α) : Prop where
  result : s.result = t.result
  clock : s.clock = t.clock
  calls : s.calls.length = t.calls.length

theorem Transcript.Alike.andThen {s t : Transcript α} {f g : α → Clock → Transcript β}
    (alike : s.Alike t) (next : ∀ a clock, (f a clock).Alike (g a clock)) :
    (s.andThen f).Alike (t.andThen g) := by
  obtain ⟨result, clock, calls⟩ := s
  obtain ⟨result', clock', calls'⟩ := t
  obtain ⟨rfl, rfl, count⟩ := alike
  cases result with
  | error e => exact ⟨rfl, rfl, count⟩
  | ok a =>
      have later := next a clock
      refine ⟨later.result, later.clock, ?_⟩
      simp only [Transcript.andThen, List.length_append, later.calls]
      exact congrArg (· + (g a clock).calls.length) count

/-- Two evaluations run alike over a dataset, under every deadline and from every time. -/
def Alike (d : Dataset) (x y : Evaluation α) : Prop :=
  ∀ deadline clock, (x.run d deadline clock).Alike (y.run d deadline clock)

namespace Alike

variable {d : Dataset} {x y : Evaluation α}

theorem refl (x : Evaluation α) : Alike d x x :=
  fun _ _ => ⟨rfl, rfl, rfl⟩

theorem bind {f g : α → Evaluation β} (first : Alike d x y) (next : ∀ a, Alike d (f a) (g a)) :
    Alike d (x >>= f) (y >>= g) := by
  intro deadline clock
  rw [run_bind, run_bind]
  exact (first deadline clock).andThen fun a later => next a deadline later

theorem checked (alike : Alike d x y) : Alike d x.checked y.checked :=
  alike.bind fun _ => refl _

end Alike

end TripleAlgebra.Evaluation
