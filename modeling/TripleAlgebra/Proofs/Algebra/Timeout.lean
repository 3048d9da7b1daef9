/-
# TripleAlgebra.Proofs.Algebra.Timeout -- a deadline cuts an answer and does nothing else

A query passes a fixed number of checkpoints over a dataset, and a clock that is only moved
by being read shows a fixed time at each of them.  So one number decides what a time budget
does (`answer_of_le`, `answer_of_lt`): a query whose last checkpoint is in time is answered
as it would be without a budget, and any other is cut at the first checkpoint that is late.

Budgets are therefore ordered: a larger one never takes an answer away
(`deadline_only_cuts`).
-/
import TripleAlgebra.Proofs.Algebra.Errors
import TripleAlgebra.Proofs.Evaluation.Deadline
import TripleAlgebra.Proofs.Store.Contents

namespace TripleAlgebra.Algebra

set_option autoImplicit false

open Evaluation

variable {a : Algebra} {d : Dataset} {fullIndexing : Bool} {clock : Clock} {input : Bag}
  {limit : Nat}

/-- The answer to a query without a time budget. -/
theorem answer_unlimited (a : Algebra) (d : Dataset) (fullIndexing : Bool) (clock : Clock)
    (input : Bag) :
    a.answer d ⟨fullIndexing, none⟩ clock input =
      ⟨(a.evaluate fullIndexing input).outcome d, clock.read.2,
        (a.evaluate fullIndexing input).calls d⟩ := by
  rw [answer_eq_run]
  exact run_unlimited d clock.current _ _

/-- The time that has elapsed at the last checkpoint of a query. -/
def duration (a : Algebra) (d : Dataset) (fullIndexing : Bool) (clock : Clock) (input : Bag) :
    Nat :=
  min ((a.evaluate fullIndexing input).checkpoints d * clock.step)
    (Clock.lastTime - clock.current)

theorem answer_of_le (enough : a.duration d fullIndexing clock input ≤ limit) :
    a.answer d ⟨fullIndexing, some limit⟩ clock input =
      ⟨(a.evaluate fullIndexing input).outcome d,
        clock.after ((a.evaluate fullIndexing input).checkpoints d + 1),
        (a.evaluate fullIndexing input).calls d⟩ := by
  rw [answer_eq_run]
  exact run_started_of_le enough

theorem answer_of_lt (short : limit < a.duration d fullIndexing clock input) :
    (a.answer d ⟨fullIndexing, some limit⟩ clock input).CutAt ⟨clock.current, some limit⟩ limit
      (clock.after (limit / clock.step + 1)) ((a.evaluate fullIndexing input).calls d) := by
  rw [answer_eq_run]
  exact run_started_of_lt short

/-- No budget that can be written is longer than the greatest one. -/
theorem duration_le_lastTime (a : Algebra) (d : Dataset) (fullIndexing : Bool) (clock : Clock)
    (input : Bag) : a.duration d fullIndexing clock input ≤ Clock.lastTime := by
  unfold duration
  omega

/-- A cut answer is a timeout. -/
theorem result_of_lt (short : limit < a.duration d fullIndexing clock input) :
    (a.answer d ⟨fullIndexing, some limit⟩ clock input).result =
      .error (.timeout limit
        (min ((limit / clock.step + 1) * clock.step) (Clock.lastTime - clock.current))) := by
  rw [(answer_of_lt short).result, Deadline.elapsed_after_succ]

/-- A timeout is reported under a budget only, and only after more time than that. -/
theorem lt_of_result_eq_timeout {timeout : Option Nat} {elapsed : Nat}
    (ended : (a.answer d ⟨fullIndexing, timeout⟩ clock input).result =
      .error (.timeout limit elapsed)) : timeout = some limit ∧ limit < elapsed := by
  cases timeout with
  | none =>
      rw [answer_unlimited] at ended
      exact absurd ended (a.outcome_ne_timeout fullIndexing input d limit elapsed)
  | some budget =>
      by_cases enough : a.duration d fullIndexing clock input ≤ budget
      · rw [answer_of_le enough] at ended
        exact absurd ended (a.outcome_ne_timeout fullIndexing input d limit elapsed)
      · have cut := answer_of_lt (Nat.lt_of_not_le enough)
        rw [cut.result] at ended
        cases ended
        exact ⟨rfl, of_decide_eq_true cut.late⟩

/-- What is answered under a budget is answered under every larger one. -/
theorem result_eq_of_le {larger : Nat} (le : limit ≤ larger)
    (answered : ∀ l elapsed, (a.answer d ⟨fullIndexing, some limit⟩ clock input).result ≠
      .error (.timeout l elapsed)) :
    (a.answer d ⟨fullIndexing, some larger⟩ clock input).result =
      (a.answer d ⟨fullIndexing, some limit⟩ clock input).result := by
  have enough : a.duration d fullIndexing clock input ≤ limit := by
    by_contra more
    exact answered _ _ (result_of_lt (Nat.lt_of_not_le more))
  rw [answer_of_le enough, answer_of_le (enough.trans le)]

/-- **A deadline only ever cuts a run, at an exactly determined point.**  Let `full` be the
answer under the greatest budget, which no run exceeds, and `checks` the number of its
checkpoints.

* Without a budget the answer and the calls are those of `full`, and the clock is read once.
* Under a budget the answer is that of `full`, with its calls and its readings of the clock,
  if the time at the last checkpoint is within it.  If not it is a timeout at the first
  checkpoint that is late, after some of the calls of `full`.
* So what is answered under a budget is answered under every larger one, and a timeout tells
  of more time than its limit. -/
theorem deadline_only_cuts (a : Algebra) (d : Dataset) (fullIndexing : Bool) (clock : Clock)
    (input : Bag) :
    let answer (timeout : Option Nat) := a.answer d ⟨fullIndexing, timeout⟩ clock input
    let full := answer (some Clock.lastTime)
    let left := Clock.lastTime - clock.current
    ∃ checks,
      full.clock.reads = clock.reads + (checks + 1) ∧
      (∀ limit elapsed, full.result ≠ .error (.timeout limit elapsed)) ∧
      ((answer none).result = full.result ∧ (answer none).calls = full.calls ∧
        (answer none).clock.reads = clock.reads + 1) ∧
      (∀ limit, min (checks * clock.step) left ≤ limit →
        (answer (some limit)).result = full.result ∧ (answer (some limit)).calls = full.calls ∧
          (answer (some limit)).clock.reads = clock.reads + (checks + 1)) ∧
      (∀ limit, limit < min (checks * clock.step) left →
        let k := limit / clock.step + 1
        (answer (some limit)).result = .error (.timeout limit (min (k * clock.step) left)) ∧
          (answer (some limit)).clock.reads = clock.reads + (k + 1) ∧
          (answer (some limit)).calls <+: full.calls) ∧
      (∀ limit larger, limit ≤ larger →
        (∀ l elapsed, (answer (some limit)).result ≠ .error (.timeout l elapsed)) →
        (answer (some larger)).result = (answer (some limit)).result) ∧
      ∀ timeout limit elapsed, (answer timeout).result = .error (.timeout limit elapsed) →
        timeout = some limit ∧ limit < elapsed := by
  intro answer full left
  have inFull : full = _ := answer_of_le (a.duration_le_lastTime d fullIndexing clock input)
  have unlimited : answer none = _ := answer_unlimited a d fullIndexing clock input
  refine ⟨(a.evaluate fullIndexing input).checkpoints d, ?_, ?_, ?_, ?_, ?_, ?_, ?_⟩
  · rw [inFull]
    exact Clock.reads_after _ _
  · rw [inFull]
    exact a.outcome_ne_timeout fullIndexing input d
  · rw [inFull, unlimited]
    exact ⟨rfl, rfl, rfl⟩
  · intro limit enough
    have inTime : answer (some limit) = _ := answer_of_le enough
    rw [inFull, inTime]
    exact ⟨rfl, rfl, Clock.reads_after _ _⟩
  · intro limit short
    have cut := answer_of_lt short
    refine ⟨result_of_lt short, ?_, ?_⟩
    · rw [cut.clock, Clock.reads_read, Clock.reads_after]
      rfl
    · rw [inFull]
      exact cut.calls
  · intro limit larger le
    exact result_eq_of_le le
  · intro timeout limit elapsed
    exact lt_of_result_eq_timeout

/-- Seven checkpoints, ten milliseconds apart: sixty-nine are too few by the last of them,
and seventy are enough. -/
theorem deadline_only_cuts_directory :
    let answer (timeout : Option Nat) := Sample.directory.answer (Dataset.listing Sample.facts)
      ⟨true, timeout⟩ { step := 10 } .identity
    (answer (some 69)).result = .error (.timeout 69 70) ∧ (answer (some 69)).clock.reads = 8 ∧
      (answer (some 70)).result = (answer none).result ∧
      (answer (some 80)).result = (answer (some 70)).result := by
  intro answer
  obtain ⟨checks, reads, -, ⟨same, -, -⟩, inTime, late, larger, -⟩ := deadline_only_cuts
    Sample.directory (Dataset.listing Sample.facts) true { step := 10 } .identity
  have eight : (answer (some Clock.lastTime)).clock.reads = 8 := rfl
  obtain rfl : checks = 7 := by
    have := reads.symm.trans eight
    simpa using this
  have cut := late 69 (by decide)
  have enough := (inTime 70 (by decide)).1
  have answered : ∃ m, (answer (some 70)).result = .ok m := ⟨_, rfl⟩
  refine ⟨cut.1, cut.2.1, enough.trans same.symm, larger 70 80 (by decide) ?_⟩
  intro l elapsed ended
  obtain ⟨m, found⟩ := answered
  cases found.symm.trans ended

end TripleAlgebra.Algebra
