/-
# TripleAlgebra.Proofs.Algebra.Indexing -- fewer indexes are not seen from outside

Without indexes over two terms a request leaves one of its two terms out of the key, gets
more triples and keeps the same ones of them (`alike_matchGiven`).  It is one call either
way, and no checkpoint stands between the call and what is kept of its answer.  The
evaluation with all indexes and the one without therefore run alike from each request
up to the whole query, under every deadline and at every time (`alike_evaluate`), and what
a query comes to, the clock and the number of calls are the same (`indexing_unobservable`).
-/
import TripleAlgebra.Proofs.Algebra.Outcome
import TripleAlgebra.Proofs.Pattern.Answer

namespace TripleAlgebra

set_option autoImplicit false

open Evaluation

variable {triples : List Triple}

/-! ## Requests -/

/-- The two ways to ask for known terms are one request or two scans. -/
theorem Request.ofKnown_cases (known : Position → Option Term) :
    ofKnown true known = ofKnown false known ∨
      ∃ narrow wide, ofKnown true known = scan narrow ∧ ofKnown false known = scan wide := by
  unfold ofKnown
  split
  · exact Or.inl rfl
  · exact Or.inr ⟨_, _, rfl, rfl⟩
  · exact Or.inr ⟨_, _, rfl, rfl⟩
  · exact Or.inr ⟨_, _, rfl, rfl⟩
  · exact Or.inl rfl
  · exact Or.inl rfl
  · exact Or.inl rfl
  · exact Or.inl rfl

/-- A scan over a list of triples is one call, in no time. -/
theorem Request.run_fetch_scan (access : Access) (deadline : Deadline) (clock : Clock) :
    (scan access).fetch.run (Dataset.listing triples) deadline clock =
      ⟨.ok (triples.filter access.admits), clock, [.scan access]⟩ := by
  simp only [fetch, run, Dataset.listing, Access.violation?_filter_admits]
  rfl

/-! ## Patterns -/

namespace Pattern

theorem alike_matchGiven (p : Pattern) (given : Solution) :
    Alike (Dataset.listing triples) (p.matchGiven true given) (p.matchGiven false given) := by
  unfold matchGiven
  have kept := fun fullIndexing => p.filter_accepts_filter_admits fullIndexing given triples
  rcases Request.ofKnown_cases (p.known given) with same | ⟨narrow, wide, full, degraded⟩
  · rw [same]
    exact Alike.refl _
  · intro deadline clock
    have keptNarrow := kept true
    have keptWide := kept false
    rw [full] at keptNarrow ⊢
    rw [degraded] at keptWide ⊢
    rw [run_bind, run_bind, Request.run_fetch_scan, Request.run_fetch_scan]
    refine ⟨?_, rfl, rfl⟩
    exact congrArg (fun l => Except.ok (l.map p.bind)) (keptNarrow.trans keptWide.symm)

theorem alike_matchGivens (p : Pattern) (givens : List Solution) :
    Alike (Dataset.listing triples) (p.matchGivens true givens) (p.matchGivens false givens) := by
  induction givens with
  | nil => exact Alike.refl _
  | cons given rest ih =>
      refine (p.alike_matchGiven given).bind ?_
      intro found
      exact ih.bind fun others => Alike.refl _

theorem alike_evaluate (p : Pattern) (input : Bag) :
    Alike (Dataset.listing triples) (p.evaluate true input) (p.evaluate false input) := by
  unfold evaluate
  by_cases ground : p.isGround = true
  · -- all three terms are known, so there is nothing to leave out of a key
    have constants := isGround_iff.1 ground
    obtain ⟨s, hs⟩ := constants .subject
    obtain ⟨r, hr⟩ := constants .predicate
    obtain ⟨o, ho⟩ := constants .object
    rw [if_pos ground, if_pos ground]
    simp only [Request.ofKnown, known, hs, hr, ho]
    exact Alike.refl _
  · rw [if_neg ground, if_neg ground]
    exact (p.alike_matchGivens _).bind fun found => Alike.refl _

end Pattern

/-! ## Queries -/

theorem alike_evaluateChain (ps : List Pattern) (answer : Bag) :
    Alike (Dataset.listing triples) (evaluateChain true answer ps)
      (evaluateChain false answer ps) := by
  induction ps generalizing answer with
  | nil => exact Alike.refl _
  | cons p rest ih =>
      rw [evaluateChain, evaluateChain]
      by_cases done : answer.isEmpty = true
      · rw [if_pos done, if_pos done]
        exact Alike.refl _
      · rw [if_neg done, if_neg done]
        refine (p.alike_evaluate answer).checked.bind ?_
        intro found
        exact (Alike.refl _).bind fun joined => ih joined

namespace Algebra

/-- **A query runs alike with and without indexes over two terms.** -/
theorem alike_evaluate (a : Algebra) (input : Bag) :
    Alike (Dataset.listing triples) (a.evaluate true input) (a.evaluate false input) := by
  induction a generalizing input with
  | pattern p => exact (p.alike_evaluate input).checked
  | bgp ps =>
      cases ps with
      | nil => exact Alike.refl _
      | cons p rest =>
          exact (p.alike_evaluate input).checked.bind fun answer =>
            alike_evaluateChain rest answer
  | modify modifier inner ih =>
      exact (ih (modifier.innerInput input)).checked.bind fun answer => Alike.refl _
  | combine combinator left right ihLeft ihRight =>
      rw [evaluate, evaluate]
      refine (ihLeft _).checked.bind ?_
      intro l
      by_cases skipped : (combinator.needsLeft && l.isEmpty) = true
      · rw [if_pos skipped, if_pos skipped]
        exact Alike.refl _
      · rw [if_neg skipped, if_neg skipped]
        exact (ihRight _).checked.bind fun r => Alike.refl _

/-- **Degraded indexing cannot be observed.**  Over any inserted triples, under any input
and with any time budget and clock, a query ends with the same bag or the same error after
as many calls, and leaves the same clock behind, which also counts its readings. -/
theorem indexing_unobservable (a : Algebra) (inserted : List Triple) (timeout : Option Nat)
    (clock : Clock) (input : Bag) :
    let full := a.answer (Store.ofTriples inserted).dataset ⟨true, timeout⟩ clock input
    let degraded := a.answer (Store.ofTriples inserted).dataset ⟨false, timeout⟩ clock input
    full.result = degraded.result ∧ full.calls.length = degraded.calls.length ∧
      full.clock = degraded.clock := by
  intro full degraded
  have alike : full.Alike degraded := by
    simp only [full, degraded, Store.dataset_ofTriples, answer_eq_run]
    exact a.alike_evaluate input _ _
  exact ⟨alike.result, alike.calls, alike.clock⟩

end Algebra

end TripleAlgebra
