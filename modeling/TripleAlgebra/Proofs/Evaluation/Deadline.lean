/-
# TripleAlgebra.Proofs.Evaluation.Deadline -- where a deadline cuts a run

A clock read over and over shows times that go up by its step until they reach the last
time (`Clock.current_after_succ`).  A run reads the clock once at each of its checkpoints,
so the time of a checkpoint depends on its number alone.

While all checkpoints are in time a limit is not noticed: the run has the result and the
calls of the run without a limit (`run_of_inTime`).  The first checkpoint that is late ends
the run, after the calls that the run without a limit makes up to there (`run_of_late`).
Which checkpoint that is can be computed from the limit and the step
(`isExpired_after_succ`).
-/
import Mathlib.Data.List.Infix
import TripleAlgebra.Proofs.Evaluation.Run

namespace TripleAlgebra

set_option autoImplicit false

/-! ## Times -/

namespace Clock

/-- The clock after some readings. -/
def after (c : Clock) : Nat → Clock
  | 0 => c
  | n + 1 => c.read.2.after n

theorem step_read (c : Clock) : c.read.2.step = c.step := rfl

theorem reads_read (c : Clock) : c.read.2.reads = c.reads + 1 := rfl

theorem current_read (c : Clock) : c.read.2.current = min (c.current + c.step) lastTime := rfl

theorem reads_after (c : Clock) (n : Nat) : (c.after n).reads = c.reads + n := by
  induction n generalizing c with
  | zero => rfl
  | succ n ih =>
      rw [after, ih, reads_read]
      omega

/-- Readings move the clock on by its step each, up to the last time. -/
theorem current_after_succ (c : Clock) (n : Nat) :
    (c.after (n + 1)).current = min (c.current + (n + 1) * c.step) lastTime := by
  induction n generalizing c with
  | zero => simp [after, current_read]
  | succ n ih =>
      have unfolded : (n + 1 + 1) * c.step = (n + 1) * c.step + c.step := Nat.succ_mul _ _
      rw [after, ih, current_read, step_read, unfolded]
      omega

end Clock

namespace Deadline

/-- What has elapsed since a clock began to be read, at one of its later readings. -/
theorem elapsed_after_succ (c : Clock) (limit : Option Nat) (n : Nat) :
    (Deadline.mk c.current limit).elapsed (c.after (n + 1)).current =
      min ((n + 1) * c.step) (Clock.lastTime - c.current) := by
  have since : (Deadline.mk c.current limit).elapsed (c.after (n + 1)).current =
      min (c.current + (n + 1) * c.step) Clock.lastTime - c.current := by
    rw [← Clock.current_after_succ]
    rfl
  rw [since]
  omega

theorem isExpired_after_succ (c : Clock) (limit n : Nat) :
    (Deadline.mk c.current (some limit)).isExpired (c.after (n + 1)).current = true ↔
      limit < min ((n + 1) * c.step) (Clock.lastTime - c.current) := by
  rw [← elapsed_after_succ c (some limit) n, isExpired]
  exact decide_eq_true_iff

end Deadline

/-! ## Runs -/

namespace Evaluation

variable {α : Type}

/-- The number of checkpoints that an evaluation passes over a dataset when it may take as
long as it likes. -/
def checkpoints (d : Dataset) : Evaluation α → Nat
  | done _ => 0
  | failed _ => 0
  | checkpoint next => next.checkpoints d + 1
  | scan access next =>
      match d.scan access with
      | .ok triples => (next triples).checkpoints d
      | .error _ => 0
  | test triple next =>
      match d.contains triple with
      | .ok present => (next present).checkpoints d
      | .error _ => 0

variable {d : Dataset} {deadline : Deadline} {limit k : Nat} {clock : Clock}

/-- A checkpoint reads the clock and ends the run if it is late. -/
theorem run_checkpoint (limited : deadline.limit = some limit) (next : Evaluation α) :
    (checkpoint next).run d deadline clock =
      if deadline.isExpired clock.current = true then
        ⟨.error (.timeout limit (deadline.elapsed clock.current)), clock.read.2, []⟩
      else next.run d deadline clock.read.2 := by
  have read : clock.read = (clock.current, clock.read.2) := rfl
  simp only [run, Deadline.check, limited]
  rw [read]
  by_cases late : deadline.isExpired clock.current = true
  · simp only [late, if_true]
  · simp only [late, if_false, Bool.false_eq_true]

/-- **A limit is not noticed while every checkpoint is in time.** -/
theorem run_of_inTime (limited : deadline.limit = some limit) {x : Evaluation α}
    (inTime : ∀ i < x.checkpoints d, ¬ deadline.isExpired (clock.after i).current = true) :
    x.run d deadline clock = ⟨x.outcome d, clock.after (x.checkpoints d), x.calls d⟩ := by
  induction x generalizing clock with
  | done a => rfl
  | failed e => rfl
  | checkpoint next ih =>
      have now : ¬ deadline.isExpired clock.current = true := inTime 0 (Nat.succ_pos _)
      rw [run_checkpoint limited, if_neg now]
      exact ih fun i before => inTime (i + 1) (Nat.succ_lt_succ before)
  | scan access next ih =>
      simp only [checkpoints] at inTime
      simp only [run, outcome, calls, checkpoints]
      cases answer : d.scan access with
      | ok triples =>
          rw [answer] at inTime
          exact congrArg (Transcript.after _) (ih triples inTime)
      | error cause => rfl
  | test triple next ih =>
      simp only [checkpoints] at inTime
      simp only [run, outcome, calls, checkpoints]
      cases answer : d.contains triple with
      | ok present =>
          rw [answer] at inTime
          exact congrArg (Transcript.after _) (ih present inTime)
      | error cause => rfl

/-- The run ends with a timeout at a late checkpoint, where the clock is as given, and has
made the first of some calls. -/
structure Transcript.CutAt (t : Transcript α) (deadline : Deadline) (limit : Nat)
    (now : Clock) (calls : List Call) : Prop where
  late : deadline.isExpired now.current = true
  result : t.result = .error (.timeout limit (deadline.elapsed now.current))
  clock : t.clock = now.read.2
  calls : t.calls <+: calls

theorem Transcript.CutAt.after {t : Transcript α} {calls : List Call}
    (cut : t.CutAt deadline limit clock calls) (call : Call) :
    (t.after call).CutAt deadline limit clock (call :: calls) :=
  ⟨cut.late, cut.result, cut.clock, List.cons_prefix_cons.2 ⟨rfl, cut.calls⟩⟩

/-- **The first late checkpoint ends the run.** -/
theorem run_of_late (limited : deadline.limit = some limit) {x : Evaluation α}
    (early : ∀ i < k, ¬ deadline.isExpired (clock.after i).current = true)
    (late : deadline.isExpired (clock.after k).current = true)
    (reached : k < x.checkpoints d) :
    (x.run d deadline clock).CutAt deadline limit (clock.after k) (x.calls d) := by
  induction x generalizing clock k with
  | done a => cases reached
  | failed e => cases reached
  | checkpoint next ih =>
      rw [run_checkpoint limited]
      cases k with
      | zero =>
          have now : deadline.isExpired clock.current = true := late
          rw [if_pos now]
          exact ⟨late, rfl, rfl, List.nil_prefix⟩
      | succ k =>
          have now : ¬ deadline.isExpired clock.current = true := early 0 (Nat.succ_pos k)
          rw [if_neg now]
          exact ih (fun i before => early (i + 1) (Nat.succ_lt_succ before)) late
            (Nat.lt_of_succ_lt_succ reached)
  | scan access next ih =>
      simp only [checkpoints] at reached
      simp only [run, calls]
      cases answer : d.scan access with
      | ok triples =>
          rw [answer] at reached
          exact (ih triples early late reached).after _
      | error cause =>
          rw [answer] at reached
          cases reached
  | test triple next ih =>
      simp only [checkpoints] at reached
      simp only [run, calls]
      cases answer : d.contains triple with
      | ok present =>
          rw [answer] at reached
          exact (ih present early late reached).after _
      | error cause =>
          rw [answer] at reached
          cases reached

/-! ## Runs under a deadline of their own -/

/-- A deadline that begins with a reading of the clock is met if the last checkpoint is in
time. -/
theorem run_started_of_le {x : Evaluation α}
    (enough : min (x.checkpoints d * clock.step) (Clock.lastTime - clock.current) ≤ limit) :
    x.run d ⟨clock.current, some limit⟩ clock.read.2 =
      ⟨x.outcome d, clock.after (x.checkpoints d + 1), x.calls d⟩ := by
  refine run_of_inTime rfl ?_
  intro i before late
  have elapsed := (Deadline.isExpired_after_succ clock limit i).1 late
  have least : (i + 1) * clock.step ≤ x.checkpoints d * clock.step :=
    Nat.mul_le_mul_right _ before
  omega

/-- Otherwise it is missed at the first checkpoint that comes more than the limit after the
beginning. -/
theorem run_started_of_lt {x : Evaluation α}
    (short : limit < min (x.checkpoints d * clock.step) (Clock.lastTime - clock.current)) :
    (x.run d ⟨clock.current, some limit⟩ clock.read.2).CutAt ⟨clock.current, some limit⟩ limit
      (clock.after (limit / clock.step + 1)) (x.calls d) := by
  have inTotal : limit < x.checkpoints d * clock.step := by omega
  have moves : 0 < clock.step := by
    refine Nat.pos_of_ne_zero ?_
    intro still
    simp [still] at inTotal
  refine run_of_late rfl ?_ ?_ ((Nat.div_lt_iff_lt_mul moves).2 inTotal)
  · intro i before late
    have elapsed := (Deadline.isExpired_after_succ clock limit i).1 late
    have most : (i + 1) * clock.step ≤ limit :=
      (Nat.le_div_iff_mul_le moves).1 before
    omega
  · have next : limit < (limit / clock.step + 1) * clock.step :=
      (Nat.div_lt_iff_lt_mul moves).1 (Nat.lt_succ_self _)
    exact (Deadline.isExpired_after_succ clock limit _).2 (by omega)

end Evaluation

end TripleAlgebra
