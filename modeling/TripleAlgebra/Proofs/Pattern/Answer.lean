/-
# TripleAlgebra.Proofs.Pattern.Answer -- one pattern over a list of triples

Over distinct triples a request fetches those that carry its key (`outcome_fetch`), and
every triple with the known terms is among them whichever key is in use
(`admits_ofKnown`).  So a pattern is answered, for each combination of given terms, by
the part of its meaning that is compatible with it (`outcome_evaluate`), and neither the
index in use nor the position of a variable is seen in the answer.

Different combinations have no compatible solution in common (`disjoint_of_givens`),
so nothing is found twice (`nodup_answer`), and an input solution finds what it can be
merged with under its own combination alone (`narrows_answer`).
-/
import TripleAlgebra.Algebra.Meaning
import TripleAlgebra.Proofs.Bag.Narrowing
import TripleAlgebra.Proofs.Evaluation.Faults
import TripleAlgebra.Proofs.Pattern.Binding
import TripleAlgebra.Proofs.Solution.Merge
import TripleAlgebra.Proofs.Store.Contents

namespace TripleAlgebra

set_option autoImplicit false

/-! ## Requests -/

namespace Request

/-- The triple is one that the request asks for. -/
def admits : Request → Triple → Bool
  | scan access, t => access.admits t
  | exactly s p o, t => t.subject = s ∧ t.predicate = p ∧ t.object = o

/-- A triple that carries the known terms is asked for, whichever key is in use. -/
theorem admits_ofKnown (fullIndexing : Bool) {known : Position → Option Term} {t : Triple}
    (carried : ∀ q term, known q = some term → t.get q = term) :
    (ofKnown fullIndexing known).admits t = true := by
  have s := carried .subject
  have p := carried .predicate
  have o := carried .object
  unfold ofKnown
  cases hs : known .subject <;> cases hp : known .predicate <;> cases ho : known .object <;>
    cases fullIndexing <;>
    simp_all [admits, Access.admits_eq_true_iff, Access.key, Triple.get]

end Request

theorem Access.violation?_filter_admits (a : Access) (triples : List Triple) :
    a.violation? (triples.filter a.admits) = none := by
  rw [violation?_eq_none_iff]
  exact fun t member => (List.mem_filter.1 member).2

/-- One of several distinct triples, if it is there. -/
theorem filter_eq_of_nodup {triples : List Triple} (nodup : triples.Nodup) (t : Triple) :
    (triples.filter fun u => decide (u = t)) = if t ∈ triples then [t] else [] := by
  have single : (triples.filter fun u => decide (u = t)) = triples.filter (· == t) := by
    simp only [beq_eq_decide]
  rw [single, List.filter_beq, nodup.count]
  split <;> rfl

/-- **A request fetches the triples that it asks for**, in order. -/
theorem Request.outcome_fetch {triples : List Triple} (nodup : triples.Nodup) (r : Request) :
    r.fetch.outcome (Dataset.listing triples) = .ok (triples.filter r.admits) := by
  cases r with
  | scan access =>
      simp only [fetch, Evaluation.outcome, Dataset.listing, Access.violation?_filter_admits]
      rfl
  | exactly s p o =>
      simp only [fetch]
      cases made : Triple.ofTerms s p o with
      | ok t =>
          obtain ⟨rfl, rfl, rfl⟩ := Triple.ofTerms_eq_ok_iff.1 made
          have same : admits (exactly t.subject t.predicate t.object) =
              fun u => decide (u = t) := by
            funext u
            simp only [admits, decide_eq_decide]
            constructor
            · rintro ⟨s, p, o⟩
              exact Triple.ext_get fun q => by cases q <;> assumption
            · rintro rfl
              exact ⟨rfl, rfl, rfl⟩
          simp only [Evaluation.outcome, Dataset.listing, same, filter_eq_of_nodup nodup,
            decide_eq_true_eq]
      | error e =>
          have absent : triples.filter (admits (exactly s p o)) = [] := by
            refine List.filter_eq_nil_iff.2 ?_
            intro t _ wanted
            have built := Triple.ofTerms_eq_ok_iff.2 (of_decide_eq_true wanted)
            rw [made] at built
            cases built
          rw [absent]
          rfl

namespace Pattern

/-! ## Combinations of given terms -/

/-- Each input solution has its terms for the narrowed names among the combinations. -/
theorem restrict_mem_givens (p : Pattern) {input : Bag} {i : Solution}
    (member : i ∈ input.solutions) :
    i.restrict (fun x => x ∈ p.narrowed input) ∈ p.givens input := by
  simp only [givens]
  by_cases none : p.narrowed input = ∅
  · rw [if_pos none, List.mem_singleton, none]
    refine Bindings.ext_get? ?_
    intro x
    simp
  · rw [if_neg none, List.mem_eraseDups]
    exact List.mem_map_of_mem member

theorem nodup_givens (p : Pattern) (input : Bag) : (p.givens input).Nodup := by
  simp only [givens]
  split
  · exact List.nodup_singleton _
  · exact nodup_eraseDups _

/-- A combination has a term for each narrowed name and for no other. -/
theorem has_of_mem_givens {p : Pattern} {input : Bag} {given : Solution}
    (member : given ∈ p.givens input) (x : String) :
    given.has x = true ↔ x ∈ p.narrowed input := by
  simp only [givens] at member
  split at member
  · rename_i none
    rw [List.mem_singleton.1 member, none]
    simp [Bindings.has]
  · rw [List.mem_eraseDups] at member
    obtain ⟨i, inside, rfl⟩ := List.mem_map.1 member
    simp only [Bindings.has, Bindings.get?_restrict, decide_eq_true_eq]
    by_cases narrow : x ∈ p.narrowed input
    · have fixed := (NameSet.mem_inter.1 narrow).2
      have bound := (Bag.mem_fixed.1 fixed).2.2 i inside
      simp only [narrow, if_true, iff_true]
      exact bound
    · simp [narrow]

/-- Where something is narrowed, a combination is part of an input solution. -/
theorem partOf_of_mem_givens {p : Pattern} {input : Bag} {given : Solution}
    (member : given ∈ p.givens input) :
    p.narrowed input = ∅ ∨ ∃ i ∈ input.solutions, given.PartOf i := by
  simp only [givens] at member
  split at member
  · exact Or.inl ‹_›
  · rw [List.mem_eraseDups] at member
    obtain ⟨i, inside, rfl⟩ := List.mem_map.1 member
    exact Or.inr ⟨i, inside, Solution.partOf_restrict _ i⟩

/-- A solution of the pattern is compatible with a combination when it has these terms for
the narrowed names. -/
theorem compatible_bind_iff {p : Pattern} {input : Bag} {given : Solution}
    (member : given ∈ p.givens input) (t : Triple) :
    given.compatible (p.bind t) = true ↔
      (p.bind t).restrict (fun x => x ∈ p.narrowed input) = given := by
  refine Solution.compatible_iff_restrict_eq ?_ ?_
  · intro x
    rw [has_of_mem_givens member, decide_eq_true_iff]
  · intro x narrow
    exact has_bind_iff.2 (NameSet.mem_inter.1 (of_decide_eq_true narrow)).1

/-- Two combinations compatible with one solution of the pattern are the same. -/
theorem givens_unique {p : Pattern} {input : Bag} {a b : Solution} {t : Triple}
    (first : a ∈ p.givens input) (second : b ∈ p.givens input)
    (fitsA : a.compatible (p.bind t) = true) (fitsB : b.compatible (p.bind t) = true) :
    a = b :=
  ((compatible_bind_iff first t).1 fitsA).symm.trans ((compatible_bind_iff second t).1 fitsB)

/-! ## The answer -/

/-- The answer to a pattern over some triples: for each combination of given terms the
solutions that are compatible with it. -/
def answer (p : Pattern) (triples : List Triple) (input : Bag) : Bag :=
  if p.isGround then (if triples.any p.fits then .identity else .null)
  else .ofSolutions p.names
    ((p.givens input).flatMap fun given => (p.meaning triples).filter given.compatible)

/-- The solutions of a pattern are the readings of the triples that fit it. -/
theorem mem_meaning {p : Pattern} {triples : List Triple} {s : Solution} :
    s ∈ p.meaning triples ↔ ∃ t ∈ triples, p.fits t = true ∧ p.bind t = s := by
  by_cases ground : p.isGround = true
  · by_cases present : triples.any p.fits = true
    · obtain ⟨t, inside, fits⟩ := List.any_eq_true.1 present
      simp only [meaning, ground, present, if_true, List.mem_singleton, bind_eq_empty]
      constructor
      · rintro rfl
        exact ⟨t, inside, fits, rfl⟩
      · rintro ⟨-, -, -, rfl⟩
        rfl
    · have none : ∀ t ∈ triples, ¬ p.fits t = true := by simpa using present
      simp only [meaning, ground, present, if_true, if_false, List.not_mem_nil, false_iff,
        Bool.false_eq_true]
      rintro ⟨t, inside, fits, -⟩
      exact none t inside fits
  · simp [meaning, ground, and_assoc]

/-- Distinct triples have distinct solutions. -/
theorem nodup_meaning (p : Pattern) {triples : List Triple} (nodup : triples.Nodup) :
    (p.meaning triples).Nodup := by
  unfold meaning
  split
  · split
    · exact List.nodup_singleton _
    · exact List.nodup_nil
  · refine (nodup.filter _).map_on ?_
    intro t first u second same
    exact bind_injective (List.mem_filter.1 first).2 (List.mem_filter.1 second).2 same

variable {triples : List Triple}

/-- The triples that serve a combination are among those of its request, whichever key is
in use. -/
theorem filter_accepts_filter_admits (fullIndexing : Bool) (p : Pattern) (given : Solution)
    (triples : List Triple) :
    (triples.filter (Request.ofKnown fullIndexing (p.known given)).admits).filter
        (p.accepts given) =
      triples.filter (p.accepts given) := by
  rw [List.filter_filter]
  refine List.filter_congr ?_
  intro t _
  by_cases accepted : p.accepts given t = true
  · rw [Request.admits_ofKnown fullIndexing (accepts_iff.1 accepted).1, Bool.and_true]
  · simp [accepted]

theorem outcome_matchGiven (nodup : triples.Nodup) (fullIndexing : Bool) {p : Pattern}
    (open_ : p.isGround = false) (given : Solution) :
    (p.matchGiven fullIndexing given).outcome (Dataset.listing triples) =
      .ok ((p.meaning triples).filter given.compatible) := by
  have accepts : p.accepts given = fun t => (given.compatible ∘ p.bind) t && p.fits t := by
    funext t
    rw [accepts_eq, Bool.and_comm, Function.comp_apply]
  rw [matchGiven, Evaluation.outcome_bind, Request.outcome_fetch nodup]
  refine congrArg Except.ok ?_
  rw [filter_accepts_filter_admits, accepts, ← List.filter_filter, ← List.filter_map]
  simp [meaning, open_]

theorem outcome_matchGivens (nodup : triples.Nodup) (fullIndexing : Bool) {p : Pattern}
    (open_ : p.isGround = false) (givens : List Solution) :
    (p.matchGivens fullIndexing givens).outcome (Dataset.listing triples) =
      .ok (givens.flatMap fun given => (p.meaning triples).filter given.compatible) := by
  induction givens with
  | nil => rfl
  | cons given rest ih =>
      rw [matchGivens, Evaluation.outcome_bind, outcome_matchGiven nodup fullIndexing open_]
      refine (Evaluation.outcome_bind _ _ _).trans ?_
      rw [ih]
      rfl

/-- A ground pattern asks for its one triple. -/
theorem admits_of_isGround {p : Pattern} (ground : p.isGround = true) (fullIndexing : Bool)
    (t : Triple) :
    (Request.ofKnown fullIndexing (p.known ∅)).admits t = p.fits t := by
  have constants := isGround_iff.1 ground
  obtain ⟨s, hs⟩ := constants .subject
  obtain ⟨r, hr⟩ := constants .predicate
  obtain ⟨o, ho⟩ := constants .object
  rw [Bool.eq_iff_iff, fits_iff]
  simp only [Request.ofKnown, known, hs, hr, ho, Request.admits, decide_eq_true_eq]
  constructor
  · rintro ⟨atS, atP, atO⟩
    refine ⟨?_, ?_⟩
    · intro q term here
      cases q <;> simp_all [Triple.get]
    · intro q r name here
      cases q <;> simp_all
  · rintro ⟨carried, -⟩
    exact ⟨carried _ _ hs, carried _ _ hr, carried _ _ ho⟩

/-- **Over distinct triples a pattern is answered by the parts of its meaning that are
compatible with the combinations of its input**, whichever indexes are in use. -/
theorem outcome_evaluate (nodup : triples.Nodup) (fullIndexing : Bool) (p : Pattern)
    (input : Bag) :
    (p.evaluate fullIndexing input).outcome (Dataset.listing triples) =
      .ok (p.answer triples input) := by
  unfold evaluate answer
  by_cases ground : p.isGround = true
  · rw [if_pos ground, if_pos ground, Evaluation.outcome_bind, Request.outcome_fetch nodup]
    have present : (triples.filter
        (Request.ofKnown fullIndexing (p.known ∅)).admits).isEmpty = !triples.any p.fits := by
      rw [funext (admits_of_isGround ground fullIndexing)]
      rw [Bool.eq_iff_iff]
      simp
    refine congrArg Except.ok ?_
    rw [present]
    cases triples.any p.fits <;> rfl
  · have open_ : p.isGround = false := by simpa using ground
    rw [if_neg ground, if_neg ground, Evaluation.outcome_bind,
      outcome_matchGivens nodup fullIndexing open_]
    rfl

/-! ## Narrowing -/

/-- Different combinations have no compatible solution in common. -/
theorem disjoint_of_givens {p : Pattern} {input : Bag} :
    (p.givens input).Pairwise fun a b =>
      ((p.meaning triples).filter a.compatible).Disjoint
        ((p.meaning triples).filter b.compatible) := by
  refine (p.nodup_givens input).imp_of_mem ?_
  intro a b first second different s inA inB
  obtain ⟨known, fitsA⟩ := List.mem_filter.1 inA
  obtain ⟨t, -, -, rfl⟩ := mem_meaning.1 known
  exact different (givens_unique first second fitsA (List.mem_filter.1 inB).2)

/-- Nothing is found twice. -/
theorem nodup_answer (nodup : triples.Nodup) (p : Pattern) (input : Bag) :
    ((p.givens input).flatMap fun given =>
      (p.meaning triples).filter given.compatible).Nodup := by
  rw [List.nodup_flatMap]
  exact ⟨fun given _ => (p.nodup_meaning nodup).filter _, disjoint_of_givens⟩

/-- A list of which one member alone makes anything makes what that member does. -/
theorem flatMap_eq_of_unique {α β : Type} {l : List α} (nodup : l.Nodup) {a : α}
    (member : a ∈ l) {f : α → List β} (others : ∀ b ∈ l, b ≠ a → f b = []) :
    l.flatMap f = f a := by
  induction l with
  | nil => exact absurd member List.not_mem_nil
  | cons b rest ih =>
      obtain ⟨new, distinct⟩ := List.nodup_cons.1 nodup
      rw [List.flatMap_cons]
      rcases List.mem_cons.1 member with rfl | later
      · have silent : rest.flatMap f = [] := by
          refine List.flatMap_eq_nil_iff.2 ?_
          intro c inRest
          exact others c (List.mem_cons_of_mem _ inRest) fun same => new (same ▸ inRest)
        rw [silent, List.append_nil]
      · have first : f b = [] := others b List.mem_cons_self fun same => new (same ▸ later)
        rw [first, List.nil_append]
        exact ih distinct later fun c inRest => others c (List.mem_cons_of_mem _ inRest)

/-- **Narrowing a pattern on its input loses nothing that the input could be merged
with.** -/
theorem narrows_answer (nodup : triples.Nodup) (p : Pattern) (input : Bag) :
    Narrows input.solutions (p.answer triples input).solutions (p.meaning triples) := by
  by_cases ground : p.isGround = true
  · have same : (p.answer triples input).solutions = p.meaning triples := by
      simp only [answer, meaning, if_pos ground]
      split <;> rfl
    rw [same]
    exact Narrows.refl _ _
  simp only [answer, if_neg ground, Bag.solutions_ofSolutions]
  refine ⟨(nodup_answer nodup p input).subperm ?_, fun i member => ?_⟩
  · intro s inside
    obtain ⟨given, -, found⟩ := List.mem_flatMap.1 inside
    exact (List.mem_filter.1 found).1
  · -- Only the input solution's own combination contributes solutions compatible with it.
    have own := p.restrict_mem_givens member
    have part := Solution.partOf_restrict (fun x => x ∈ p.narrowed input) i
    rw [List.filter_flatMap, flatMap_eq_of_unique (p.nodup_givens input) own]
    · rw [List.filter_filter]
      refine List.filter_congr ?_
      intro s _
      by_cases fits : i.compatible s = true
      · simp [fits, part.compatible fits]
      · simp [fits]
    · intro given inside different
      rw [List.filter_filter]
      refine List.filter_eq_nil_iff.2 fun s known both => different ?_
      obtain ⟨t, -, -, rfl⟩ := mem_meaning.1 known
      rw [Bool.and_eq_true] at both
      exact givens_unique inside own both.2 (part.compatible both.1)

end Pattern

end TripleAlgebra
