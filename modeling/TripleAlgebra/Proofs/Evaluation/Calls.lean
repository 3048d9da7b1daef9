/-
# TripleAlgebra.Proofs.Evaluation.Calls -- a run knows its dataset by the calls it makes

Two datasets that answer every call of a run alike cannot be told apart by it: the run over
one is the run over the other, to the clock (`run_eq_of_agreesAt`).

If the other dataset instead fails one of the calls, and answers alike the ones before it,
then that is where its run ends, with this failure for a result (`run_of_failsAt`).  Both
are said of runs under any deadline, since what was asked in time over one dataset is asked
in time over the other.
-/
import TripleAlgebra.Dataset.Faulty
import TripleAlgebra.Evaluation

namespace TripleAlgebra

set_option autoImplicit false

/-! ## Datasets compared at one call -/

namespace Dataset

/-- The second dataset answers a call as the first one does. -/
def AgreesAt (d e : Dataset) : Call → Prop
  | .scan access => e.scan access = d.scan access
  | .contains t => e.contains t = d.contains t

/-- The dataset fails a call. -/
def FailsAt (e : Dataset) (cause : DatasetError) : Call → Prop
  | .scan access => e.scan access = .error cause
  | .contains t => e.contains t = .error cause

variable {poison : Term} {call : Call}

theorem agreesAt_poisoned (d : Dataset) (clean : poison ∉ call.terms) :
    d.AgreesAt (d.poisoned poison) call := by
  cases call with
  | scan access => exact if_neg clean
  | contains t => exact if_neg clean

theorem failsAt_poisoned (d : Dataset) (named : poison ∈ call.terms) :
    (d.poisoned poison).FailsAt (poisonError poison) call := by
  cases call with
  | scan access => exact if_pos named
  | contains t => exact if_pos named

end Dataset

/-! ## Runs over two datasets -/

namespace Evaluation

variable {α β : Type} {d e : Dataset} {deadline : Deadline} {clock : Clock} {x : Evaluation α}

/-- The run that makes a call and goes on with its answer. -/
def Transcript.asking (call : Call) (answer : Except DatasetError β) (clock : Clock)
    (next : β → Transcript α) : Transcript α :=
  match answer with
  | .ok b => (next b).after call
  | .error cause => ⟨.error (.dataset cause), clock, [call]⟩

theorem run_scan (access : Access) (next : List Triple → Evaluation α) :
    (scan access next).run d deadline clock =
      .asking (.scan access) (d.scan access) clock fun triples =>
        (next triples).run d deadline clock := by
  rw [run]
  cases d.scan access <;> rfl

theorem run_test (t : Triple) (next : Bool → Evaluation α) :
    (test t next).run d deadline clock =
      .asking (.contains t) (d.contains t) clock fun present =>
        (next present).run d deadline clock := by
  rw [run]
  cases d.contains t <;> rfl

section Asking

variable {first call : Call} {answer answer' : Except DatasetError β}
  {next next' : β → Transcript α}

theorem Transcript.first_mem_asking : first ∈ (asking first answer clock next).calls := by
  cases answer <;> exact List.mem_cons_self

theorem Transcript.asking_congr
    (alike : ∀ b, (∀ call ∈ (next b).calls, call ∈ (asking first answer clock next).calls) →
      next' b = next b) :
    asking first answer clock next' = asking first answer clock next := by
  cases answer with
  | ok b =>
      exact congrArg (Transcript.after first) (alike b fun call made => List.mem_cons_of_mem _ made)
  | error cause => rfl

/-- The run ends with the failure of its last call. -/
structure Transcript.FailedAfter (t : Transcript α) (cause : DatasetError)
    (calls : List Call) : Prop where
  result : t.result = .error (.dataset cause)
  calls : t.calls = calls

variable {cause : DatasetError} {before later : List Call}

/-- A run that makes a call fails by it, or fails later. -/
theorem Transcript.failedAfter_asking
    (made : (asking first answer clock next).calls = before ++ call :: later)
    (agree : first ∈ before → answer' = answer)
    (fails : first = call → answer' = .error cause)
    (goOn : ∀ b rest, before = first :: rest → (next b).calls = rest ++ call :: later →
      (next' b).FailedAfter cause (rest ++ [call])) :
    (asking first answer' clock next').FailedAfter cause (before ++ [call]) := by
  cases before with
  | nil =>
      have atOnce : first = call := by
        cases answer <;> exact (List.cons.inj made).1
      rw [fails atOnce, ← atOnce]
      exact ⟨rfl, rfl⟩
  | cons earlier rest =>
      cases answer with
      | ok b =>
          obtain ⟨rfl, others⟩ := List.cons.inj made
          have ended := goOn b rest rfl others
          rw [agree List.mem_cons_self]
          exact ⟨ended.result, congrArg (first :: ·) ended.calls⟩
      | error error =>
          have none : [] = rest ++ call :: later := (List.cons.inj made).2
          cases rest <;> cases none

end Asking

/-- **A run depends on the answers to its own calls only.** -/
theorem run_eq_of_agreesAt
    (agree : ∀ call ∈ (x.run d deadline clock).calls, d.AgreesAt e call) :
    x.run e deadline clock = x.run d deadline clock := by
  induction x generalizing clock with
  | done a => rfl
  | failed error => rfl
  | checkpoint next ih =>
      -- no call, and the same clock on both sides
      simp only [run] at agree ⊢
      split
      · rename_i later inTime
        rw [inTime] at agree
        exact ih agree
      · rfl
  | scan access next ih =>
      rw [run_scan] at agree ⊢
      have same : e.scan access = d.scan access := agree _ Transcript.first_mem_asking
      rw [run_scan, same]
      exact Transcript.asking_congr fun triples among =>
        ih triples fun call made => agree call (among call made)
  | test t next ih =>
      rw [run_test] at agree ⊢
      have same : e.contains t = d.contains t := agree _ Transcript.first_mem_asking
      rw [run_test, same]
      exact Transcript.asking_congr fun present among =>
        ih present fun call made => agree call (among call made)

variable {cause : DatasetError} {before later : List Call} {call : Call}

/-- **The first call that fails ends the run**, with its failure for a result. -/
theorem run_of_failsAt (made : (x.run d deadline clock).calls = before ++ call :: later)
    (agree : ∀ earlier ∈ before, d.AgreesAt e earlier) (fails : e.FailsAt cause call) :
    (x.run e deadline clock).FailedAfter cause (before ++ [call]) := by
  -- what is still to come of the calls before the failing one goes down with the evaluation
  induction x generalizing clock before with
  | done a => cases before <;> cases made
  | failed error => cases before <;> cases made
  | checkpoint next ih =>
      simp only [run] at made ⊢
      split
      · rename_i inTime
        rw [inTime] at made
        exact ih made agree
      · rename_i late
        rw [late] at made
        cases before <;> cases made
  | scan access next ih =>
      rw [run_scan] at made ⊢
      refine Transcript.failedAfter_asking made (agree (.scan access)) ?_ ?_
      · rintro rfl
        exact fails
      · rintro triples rest rfl others
        exact ih triples others fun earlier among => agree earlier (List.mem_cons_of_mem _ among)
  | test t next ih =>
      rw [run_test] at made ⊢
      refine Transcript.failedAfter_asking made (agree (.contains t)) ?_ ?_
      · rintro rfl
        exact fails
      · rintro present rest rfl others
        exact ih present others fun earlier among => agree earlier (List.mem_cons_of_mem _ among)

end Evaluation

end TripleAlgebra
