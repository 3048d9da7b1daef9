/-
# TripleAlgebra.Proofs.Algebra.Refinement -- an answer is what the query means

Inputs, indices, buckets and short cuts are how an answer is found; what is found is the
meaning of the query over the triples in the order of their insertion
(`answer_eq_meaning`).

Where a query has a meaning it has an answer under every input (`outcome_of_meaning`).
An extension is the only operator that can fail: it is given no more than the solutions
that the meaning extends, because what its child returns narrows what the child means.
That the answer is the meaning is then the case of `narrows_evaluate` without an input.
-/
import TripleAlgebra.Proofs.Algebra.Narrowing

namespace TripleAlgebra

set_option autoImplicit false

variable {triples : List Triple}

/-! ## Meanings that fail -/

namespace Algebra

/-- A query lacks a meaning only because of an assignment that would change a binding. -/
theorem rebinding_of_meaning {a : Algebra} {e : EvaluationError}
    (failed : a.meaning triples = .error e) : ∃ name index, e = .rebinding name index := by
  induction a generalizing e with
  | pattern p => cases failed
  | bgp ps => cases failed
  | modify modifier inner ih =>
      rw [meaning] at failed
      rcases bind_eq_error_iff.1 failed with below | ⟨found, -, here⟩
      · exact ih below
      · exact Modifier.rebinding_of_meaning here
  | combine combinator left right ihLeft ihRight =>
      rw [meaning] at failed
      rcases bind_eq_error_iff.1 failed with onLeft | ⟨l, -, rest⟩
      · exact ihLeft onLeft
      · rcases bind_eq_error_iff.1 rest with onRight | ⟨r, -, here⟩
        · exact ihRight onRight
        · cases here

/-! ## Answers -/

variable {l : List Solution}

/-- **A query with a meaning has an answer**, under every input. -/
theorem outcome_of_meaning (nodup : triples.Nodup) {a : Algebra}
    (meant : a.meaning triples = .ok l) (fullIndexing : Bool) (input : Bag) :
    ∃ m, (a.evaluate fullIndexing input).outcome (Dataset.listing triples) = .ok m := by
  induction a generalizing l input with
  | pattern p => exact ⟨p.answer triples input, outcome_pattern nodup p⟩
  | bgp ps =>
      obtain ⟨m, found, -⟩ := outcome_evaluateBgp nodup fullIndexing ps input
      exact ⟨m, found⟩
  | modify modifier inner ih =>
      obtain ⟨found, below, here⟩ := meaning_modify_eq_ok.1 meant
      obtain ⟨answer, ended⟩ := ih below (modifier.innerInput input)
      -- the answer may be narrowed, so it extends only some of what the meaning extends
      have narrows := narrows_evaluate nodup ended
      rw [tolerantMeaning_eq_of_meaning below] at narrows
      obtain ⟨m, applied⟩ := Modifier.apply_isOk_of_subset here narrows.subperm.subset
      exact ⟨m, outcome_modify_eq_ok.2 ⟨answer, ended, applied⟩⟩
  | combine combinator left right ihLeft ihRight =>
      obtain ⟨a, b, onLeft, onRight, -⟩ := meaning_combine_eq_ok.1 meant
      exact outcome_combine_isOk (ihLeft onLeft) (ihRight onRight) input

/-- The same of a query asked of a loaded store. -/
theorem answer_of_meaning (a : Algebra) (inserted : List Triple)
    (meant : a.meaning inserted.eraseDups = .ok l) (fullIndexing : Bool) (clock : Clock)
    (input : Bag) :
    ∃ m, (a.answer (Store.ofTriples inserted).dataset ⟨fullIndexing, none⟩ clock
      input).result = .ok m := by
  rw [Store.dataset_ofTriples, result_answer]
  exact outcome_of_meaning (nodup_eraseDups inserted) meant fullIndexing input

/-- **An answer is what the query means.**  Unless its meaning is a conflict, a query has
a list of solutions for its meaning over the inserted triples, each where it was first
inserted, and is answered by exactly that list. -/
theorem answer_eq_meaning {a : Algebra} {inserted : List Triple}
    (defined : ∀ name index, a.meaning inserted.eraseDups ≠ .error (.rebinding name index))
    (fullIndexing : Bool) (clock : Clock) :
    ∃ l m, a.meaning inserted.eraseDups = .ok l ∧
      (a.answer (Store.ofTriples inserted).dataset ⟨fullIndexing, none⟩ clock
        .identity).result = .ok m ∧
      m.solutions = l := by
  cases meant : a.meaning inserted.eraseDups with
  | error e =>
      obtain ⟨name, index, rfl⟩ := rebinding_of_meaning meant
      exact absurd meant (defined name index)
  | ok l =>
      obtain ⟨m, ended⟩ := answer_of_meaning a inserted meant fullIndexing clock .identity
      refine ⟨l, m, rfl, ended, ?_⟩
      rw [solutions_answer_identity ended]
      exact tolerantMeaning_eq_of_meaning meant

/-- The office below the slice is the second one, in the order of insertion; a triple
inserted twice counts once. -/
theorem answer_eq_meaning_offices :
    (∀ name index, Sample.offices.meaning (Sample.facts ++ Sample.facts).eraseDups ≠
      .error (.rebinding name index)) ∧
    ∃ m, (Sample.offices.answer (Store.ofTriples (Sample.facts ++ Sample.facts)).dataset
        ⟨false, none⟩ {} .identity).result = .ok m ∧
      m.solutions.map (·.get? "who") =
        [some (.iri "ann"), some (.iri "bob"), some (.iri "bob")] := by
  have defined : ∀ name index,
      Sample.offices.meaning (Sample.facts ++ Sample.facts).eraseDups ≠
        .error (.rebinding name index) := by
    intro name index conflict
    cases conflict
  refine ⟨defined, ?_⟩
  obtain ⟨l, m, meant, ended, rfl⟩ := answer_eq_meaning defined false {}
  refine ⟨m, ended, ?_⟩
  rw [← Except.ok.inj meant]
  rfl

end Algebra

end TripleAlgebra
