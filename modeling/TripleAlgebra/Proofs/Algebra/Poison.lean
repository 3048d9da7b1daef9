/-
# TripleAlgebra.Proofs.Algebra.Poison -- where a failing dataset ends a query

A dataset that fails every call naming a certain term answers all other calls as before.
So a query runs over it as it would have run otherwise, up to the first call that names the
term; there it ends, and the failure of this call is what it reports
(`failure_surfaces_at_first_call`).

No operator needs to be looked at for that: whatever filters and extensions absorb, they
absorb errors of expressions, and a call is made by no expression.  Only the short cut of a
combinator is an operator's own: what stands to the right of a side without solutions makes
no call at all (`answer_combine_of_isEmpty`).
-/
import TripleAlgebra.Proofs.Algebra.Outcome
import TripleAlgebra.Proofs.Evaluation.Calls
import TripleAlgebra.Proofs.Evaluation.Deadline
import TripleAlgebra.Proofs.Store.Contents

namespace TripleAlgebra.Algebra

set_option autoImplicit false

open Evaluation

variable {a left : Algebra} {d : Dataset} {config : Config} {clock : Clock} {input : Bag}
  {poison : Term}

/-! ## Calls that name the term -/

theorem answer_poisoned_of_clean
    (clean : ∀ call ∈ (a.answer d config clock input).calls, poison ∉ call.terms) :
    a.answer (d.poisoned poison) config clock input = a.answer d config clock input := by
  rw [answer_eq_run] at clean ⊢
  exact run_eq_of_agreesAt fun call made => d.agreesAt_poisoned (clean call made)

theorem answer_poisoned_of_named {before later : List Call} {call : Call}
    (made : (a.answer d config clock input).calls = before ++ call :: later)
    (clean : ∀ earlier ∈ before, poison ∉ earlier.terms) (named : poison ∈ call.terms) :
    (a.answer (d.poisoned poison) config clock input).FailedAfter (Dataset.poisonError poison)
      (before ++ [call]) := by
  rw [answer_eq_run] at made ⊢
  exact run_of_failsAt made (fun earlier among => d.agreesAt_poisoned (clean earlier among))
    (d.failsAt_poisoned named)

/-! ## Right sides that are not looked at -/

/-- What stands to the right of a side without solutions is not looked at: the run is that
of the left side, and one checkpoint. -/
theorem run_combine_of_isEmpty {combinator : Combinator} {fullIndexing : Bool}
    {deadline : Deadline} {l : Bag} (needs : combinator.needsLeft = true)
    (ended : ((left.evaluate fullIndexing input).run d deadline clock).result = .ok l)
    (none : l.isEmpty = true) (right : Algebra) :
    ((combine combinator left right).evaluate fullIndexing input).run d deadline clock =
      ((left.evaluate fullIndexing input).run d deadline clock).andThen fun _ later =>
        (checkpoint (done Bag.null)).run d deadline later := by
  have checked : (left.evaluate fullIndexing input).checked.run d deadline clock = _ :=
    run_bind d deadline (left.evaluate fullIndexing input) (fun b => checkpoint (done b)) clock
  rw [evaluate, Combinator.leftInput_of_needsLeft needs, run_bind, checked]
  -- from here only the checkpoint after the left side is left to run, on both sides
  cases ran : (left.evaluate fullIndexing input).run d deadline clock with
  | mk result later calls =>
  rw [ran] at ended
  obtain rfl : result = .ok l := ended
  simp only [Transcript.andThen, run]
  cases deadline.check later with
  | mk passed later =>
      cases passed with
      | ok _ => simp [needs, none, run, pure]
      | error e => rfl

/-- A checkpoint makes no call, and no failure of a dataset ends it. -/
theorem run_checkpoint_done (d : Dataset) (deadline : Deadline) (clock : Clock) (b : Bag) :
    ((checkpoint (done b)).run d deadline clock).calls = [] ∧
      ∀ cause, ((checkpoint (done b)).run d deadline clock).result ≠ .error (.dataset cause) := by
  obtain ⟨start, limit⟩ := deadline
  cases limit with
  | none =>
      refine ⟨rfl, ?_⟩
      rintro cause ⟨⟩
  | some limit =>
      rw [run_checkpoint rfl]
      split
      · refine ⟨rfl, ?_⟩
        rintro cause ⟨⟩
      · refine ⟨rfl, ?_⟩
        rintro cause ⟨⟩

/-- **What stands to the right of a side without solutions cannot fail.**  Only time can run
out. -/
theorem answer_combine_of_isEmpty {combinator : Combinator} {l : Bag}
    (needs : combinator.needsLeft = true)
    (ended : (left.answer d config clock input).result = .ok l) (none : l.isEmpty = true)
    (right : Algebra) :
    let whole := (combine combinator left right).answer d config clock input
    whole.calls = (left.answer d config clock input).calls ∧
      ∀ cause, whole.result ≠ .error (.dataset cause) := by
  intro whole
  have steps : whole = (left.answer d config clock input).andThen fun _ later => _ :=
    run_combine_of_isEmpty needs ended none right
  rw [steps]
  cases ran : left.answer d config clock input with
  | mk result later calls =>
  rw [ran] at ended
  obtain rfl : result = .ok l := ended
  obtain ⟨silent, own⟩ := run_checkpoint_done d ⟨clock.current, config.timeout⟩ later .null
  refine ⟨?_, own⟩
  exact (congrArg (calls ++ ·) silent).trans (List.append_nil calls)

/-! ## The whole query -/

/-- **A dataset failure surfaces exactly at the first call that meets it.**  Over the dataset
that fails every call naming a term:

* a query none of whose calls names it runs as over the dataset itself;
* any other makes the calls up to the first that names it, and no more, and reports the
  failure of that call;
* whatever stands to the right of a side without solutions makes no call, and so does not
  fail. -/
theorem failure_surfaces_at_first_call (a : Algebra) (d : Dataset) (config : Config)
    (clock : Clock) (input : Bag) (poison : Term) :
    let plain := a.answer d config clock input
    let spoilt := a.answer (d.poisoned poison) config clock input
    ((∀ call ∈ plain.calls, poison ∉ call.terms) → spoilt = plain) ∧
      ((∃ call ∈ plain.calls, poison ∈ call.terms) →
        ∃ before call later, plain.calls = before ++ call :: later ∧
          (∀ earlier ∈ before, poison ∉ earlier.terms) ∧ poison ∈ call.terms ∧
          spoilt.calls = before ++ [call] ∧
          spoilt.result =
            .error (.dataset (.unavailable ("lookup of " ++ poison.text ++ " failed")))) ∧
      ∀ combinator left right l, a = combine combinator left right →
        combinator.needsLeft = true →
        (left.answer (d.poisoned poison) config clock input).result = .ok l → l.isEmpty = true →
        spoilt.calls = (left.answer (d.poisoned poison) config clock input).calls ∧
          ∀ cause, spoilt.result ≠ .error (.dataset cause) := by
  intro plain spoilt
  refine ⟨answer_poisoned_of_clean, ?_, ?_⟩
  · intro meets
    obtain ⟨call, found⟩ : ∃ call, plain.calls.find? (poison ∈ ·.terms) = some call := by
      simpa [← Option.isSome_iff_exists] using meets
    obtain ⟨named, before, later, made, clean⟩ := List.find?_eq_some_iff_append.1 found
    have named : poison ∈ call.terms := of_decide_eq_true named
    have clean : ∀ earlier ∈ before, poison ∉ earlier.terms := by simpa using clean
    have ended := answer_poisoned_of_named made clean named
    exact ⟨before, call, later, made, clean, named, ended.calls, ended.result⟩
  · rintro combinator left right l rfl needs ended none
    exact answer_combine_of_isEmpty needs ended none right

/-- The telephones are asked for after the offices, and not at all where there is no fax
number to compare them with. -/
theorem failure_surfaces_at_first_call_directory :
    let plain := Dataset.listing Sample.facts
    let skipped :=
      combine .join (Sample.column "fax" "number") (Sample.column "phone" "number")
    let run (a : Algebra) (d : Dataset) := a.answer d ⟨true, none⟩ {} .identity
    run Sample.directory (plain.poisoned (.iri "email")) = run Sample.directory plain ∧
      (run Sample.directory (plain.poisoned (.iri "phone"))).result =
        .error (.dataset (.unavailable ("lookup of " ++ (Term.iri "phone").text ++ " failed"))) ∧
      ∀ cause,
        (run skipped (plain.poisoned (.iri "phone"))).result ≠ .error (.dataset cause) := by
  intro plain skipped run
  obtain ⟨clean, -, -⟩ := failure_surfaces_at_first_call Sample.directory plain ⟨true, none⟩ {}
    .identity (.iri "email")
  obtain ⟨-, meets, -⟩ := failure_surfaces_at_first_call Sample.directory plain ⟨true, none⟩ {}
    .identity (.iri "phone")
  obtain ⟨-, -, skips⟩ := failure_surfaces_at_first_call skipped plain ⟨true, none⟩ {}
    .identity (.iri "phone")
  obtain ⟨before, call, later, -, -, -, -, ended⟩ := meets (by decide)
  exact ⟨clean (by decide), ended, (skips _ _ _ _ rfl rfl rfl rfl).2⟩

end TripleAlgebra.Algebra
