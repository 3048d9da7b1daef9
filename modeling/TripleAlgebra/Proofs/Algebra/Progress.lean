/-
# TripleAlgebra.Proofs.Algebra.Progress -- a well-scoped query has an answer

An extension fails only where it would change a binding.  Assignments to names that no
solution binds, each made once, never do (`extendSolution_of_fresh`).  Which names an answer
may bind is read off the query: its scope describes the answer under every input, also
where the input has narrowed it or a solution was matched optionally.  A query whose
extensions assign fresh names with respect to that scope is well-scoped
(`Algebra.wellScoped`), and nothing that it does can fail over a loaded store
(`answer_of_wellScoped`): patterns find their triples on every path, and the other operators
have no way to fail.
-/
import TripleAlgebra.Proofs.Algebra.Refinement
import TripleAlgebra.Proofs.Algebra.Scoping

namespace TripleAlgebra

set_option autoImplicit false

/-! ## Fresh names -/

/-- The assigned names are distinct, and none of them is one of the given names. -/
def Assignments.fresh (assignments : Assignments) (names : NameSet) : Bool :=
  (assignments.toList.map Assignment.name).Nodup ∧ assignments.names.disjoint names = true

/-- An extension assigns names that its child's scope does not have. -/
def Modifier.wellScoped (modifier : Modifier) (inner : Scope) : Bool :=
  match modifier with
  | extend assignments => assignments.fresh inner.names
  | _ => true

/-- Every extension in the query assigns distinct names, none of them in the scope of what it
extends. -/
def Algebra.wellScoped : Algebra → Bool
  | pattern _ => true
  | bgp _ => true
  | modify modifier inner => modifier.wellScoped inner.scope && inner.wellScoped
  | combine _ left right => left.wellScoped && right.wellScoped

/-! ## Assigning -/

/-- An assignment to a name that is not bound succeeds. -/
theorem Assignment.exists_makes_of_free {a : Assignment} {s : Solution}
    (free : s.get? a.name = none) : ∃ t, a.Makes s t := by
  cases value : a.value.evaluate s with
  | error e => exact ⟨s, .nothing value⟩
  | ok term => exact ⟨s.insert a.name term, .binding value free⟩

/-- **Assignments to distinct names that are not bound succeed.**  After each of them the
names of the others are still not bound. -/
theorem extendSolution_of_fresh {assignments : List Assignment} {s : Solution}
    (distinct : (assignments.map Assignment.name).Nodup)
    (free : ∀ x ∈ assignments.map Assignment.name, s.get? x = none) :
    ∃ t, extendSolution assignments s = .ok t := by
  induction assignments generalizing s with
  | nil => exact ⟨s, rfl⟩
  | cons a rest ih =>
      obtain ⟨new, later⟩ := List.nodup_cons.1 distinct
      obtain ⟨middle, first⟩ := Assignment.exists_makes_of_free (free a.name List.mem_cons_self)
      have stillFree : ∀ x ∈ rest.map Assignment.name, middle.get? x = none := by
        intro x member
        by_contra bound
        rcases first.has (Option.isSome_iff_ne_none.2 bound) with before | rfl
        · have none := free x (List.mem_cons_of_mem _ member)
          simp [Bindings.has, none] at before
        · exact new member
      obtain ⟨t, made⟩ := ih later stillFree
      exact ⟨t, extendSolution_cons_eq_ok.2 ⟨middle, first, made⟩⟩

/-- A modifier that is well-scoped can be applied to every bag that its scope describes. -/
theorem Modifier.apply_of_wellScoped {modifier : Modifier} {scope : Scope}
    (fresh : modifier.wellScoped scope = true) {b : Bag} (describes : scope.Describes b) :
    ∃ m, modifier.apply b = .ok m := by
  cases modifier with
  | extend assignments =>
      obtain ⟨distinct, disjoint⟩ := decide_eq_true_iff.1 fresh
      have each : ∀ s ∈ b.solutions, ∃ t, extendSolution assignments.toList s = .ok t := by
        intro s inside
        refine extendSolution_of_fresh distinct ?_
        intro x assigned
        by_contra bound
        have named := describes.bound s inside x (Option.isSome_iff_ne_none.2 bound)
        exact NameSet.disjoint_eq_true_iff.1 disjoint x (NameSet.mem_ofList.2 assigned) named
      obtain ⟨out, meant⟩ := (extendSolutions_isOk_iff assignments.toList 0 b.solutions).2 each
      exact apply_isOk_of_subset meant (List.Subset.refl _)
  | filter condition => exact ⟨_, rfl⟩
  | distinct => exact ⟨_, rfl⟩
  | project names => exact ⟨_, rfl⟩
  | slice offset limit => exact ⟨_, rfl⟩

/-! ## Queries -/

namespace Algebra

variable {triples : List Triple}

/-- **A well-scoped query has an answer** under every input. -/
theorem outcome_of_wellScoped (nodup : triples.Nodup) {a : Algebra}
    (fresh : a.wellScoped = true) (fullIndexing : Bool) (input : Bag) :
    ∃ m, (a.evaluate fullIndexing input).outcome (Dataset.listing triples) = .ok m := by
  induction a generalizing input with
  | pattern p => exact ⟨p.answer triples input, outcome_pattern nodup p⟩
  | bgp ps =>
      obtain ⟨m, found, -⟩ := outcome_evaluateBgp nodup fullIndexing ps input
      exact ⟨m, found⟩
  | modify modifier inner ih =>
      obtain ⟨here, below⟩ := Bool.and_eq_true_iff.1 fresh
      obtain ⟨answer, ended⟩ := ih below (modifier.innerInput input)
      have describes : inner.scope.Describes answer :=
        (ensures_evaluate fullIndexing inner _).of_outcome ended
      obtain ⟨m, applied⟩ := Modifier.apply_of_wellScoped here describes
      exact ⟨m, outcome_modify_eq_ok.2 ⟨answer, ended, applied⟩⟩
  | combine combinator left right ihLeft ihRight =>
      obtain ⟨onLeft, onRight⟩ := Bool.and_eq_true_iff.1 fresh
      exact outcome_combine_isOk (ihLeft onLeft) (ihRight onRight) input

/-- **A well-scoped query cannot fail.**  Whatever was inserted, under every input and with
full indexes or without, it has an answer: no assignment changes a binding, no scan breaks its
contract and no call fails. -/
theorem answer_of_wellScoped {a : Algebra} (fresh : a.wellScoped = true)
    (inserted : List Triple) (fullIndexing : Bool) (clock : Clock) (input : Bag) :
    ∃ m, (a.answer (Store.ofTriples inserted).dataset ⟨fullIndexing, none⟩ clock
      input).result = .ok m := by
  rw [Store.dataset_ofTriples, result_answer]
  exact outcome_of_wellScoped (nodup_eraseDups inserted) fresh fullIndexing input

/-- The input binds the name that the extension assigns to another term, and still there is no
conflict. -/
theorem answer_of_wellScoped_directory :
    Sample.directory.wellScoped = true ∧
    ∃ m, (Sample.directory.answer (Store.ofTriples Sample.facts).dataset ⟨false, none⟩ {}
      (.ofSolutions ∅ [(Sample.person "ann").insert "listed" (.ofBool false)])).result =
        .ok m := by
  have fresh : Sample.directory.wellScoped = true := by decide
  exact ⟨fresh, answer_of_wellScoped fresh _ _ _ _⟩

end Algebra

end TripleAlgebra
