/-
# TripleAlgebra.Proofs.Algebra.Homomorphism -- a chain of patterns finds all homomorphisms

A solution takes a pattern to a triple by putting in for every variable the term that it is
bound to (`Pattern.Instantiates`).  It is a homomorphism from several patterns into some
triples if it binds their variables and no others and takes each of them to one of the
triples (`IsHomomorphism`).  No order, no input and no position of a variable occurs in that.

The nested loops over a chain of patterns hold the homomorphisms (`mem_bgpMeaning`), each
once (`nodup_bgpMeaning`).  Both go by induction on the chain from its end: a homomorphism is
cut into its part for the patterns before and its part for the last one, and these merge into
it again.  The answer to the chain is that list, so it does not depend on the arrangement of
the patterns but for its order (`bgp_enumerates_homomorphisms`).
-/
import Mathlib.Data.List.Induction
import TripleAlgebra.Proofs.Algebra.Narrowing
import TripleAlgebra.Proofs.Bag.Pairs

namespace TripleAlgebra

set_option autoImplicit false

variable {triples : List Triple} {s : Solution}

/-! ## Patterns with terms put in -/

namespace Pattern

variable {p : Pattern} {t : Triple}

/-- The triple is the pattern with the solution's terms in place of its variables. -/
def Instantiates (p : Pattern) (s : Solution) (t : Triple) : Prop :=
  ∀ q, p.known s q = some (t.get q)

namespace Instantiates

theorem of_partOf {s' : Solution} (instantiates : p.Instantiates s t) (part : s.PartOf s') :
    p.Instantiates s' t := by
  intro q
  have here := instantiates q
  unfold known at here ⊢
  cases slot : p.get q with
  | const term => simpa [slot] using here
  | var name => exact part name _ (by simpa [slot] using here)

/-- Only the bindings of the pattern's own variables count. -/
theorem restrict (instantiates : p.Instantiates s t) {keep : String → Bool}
    (keeps : ∀ x ∈ p.names, keep x = true) : p.Instantiates (s.restrict keep) t := by
  intro q
  have here := instantiates q
  unfold known at here ⊢
  cases slot : p.get q with
  | const term => simpa [slot] using here
  | var name =>
      have kept : keep name = true := keeps name (mem_names.2 ⟨q, slot⟩)
      simpa [slot, kept] using here

/-- A pattern becomes a triple that fits it. -/
theorem fits (instantiates : p.Instantiates s t) : p.fits t = true := by
  refine fits_iff.2 ⟨?_, ?_⟩
  · intro q term slot
    have here := instantiates q
    simp only [known, slot, Option.some.injEq] at here
    exact here.symm
  · intro q r name first second
    have atQ := instantiates q
    have atR := instantiates r
    simp only [known, first] at atQ
    simp only [known, second, atQ, Option.some.injEq] at atR
    exact atR.symm

/-- Read through the pattern, the triple gives the terms back. -/
theorem bind_eq (instantiates : p.Instantiates s t)
    (domain : ∀ x, s.has x = true ↔ x ∈ p.names) : p.bind t = s := by
  refine Solution.PartOf.eq_of_has (c := s) ?_ (Solution.PartOf.refl s) ?_
  · intro x a bound
    obtain ⟨q, slot, rfl⟩ := get?_bind_eq_some bound
    have here := instantiates q
    simpa only [known, slot] using here
  · intro x
    rw [Bool.eq_iff_iff, has_bind_iff, domain]

end Instantiates

/-- What is read off a triple that fits puts the triple together again. -/
theorem instantiates_bind (fits : p.fits t = true) : p.Instantiates (p.bind t) t := by
  intro q
  unfold known
  cases slot : p.get q with
  | const term => rw [(fits_iff.1 fits).1 q term slot]
  | var name => exact get?_bind (isConsistent_of_fits fits) slot

/-- A pattern has the solutions that bind its variables and take it to one of the triples. -/
theorem mem_meaning_iff :
    s ∈ p.meaning triples ↔
      (∀ x, s.has x = true ↔ x ∈ p.names) ∧ ∃ t ∈ triples, p.Instantiates s t := by
  rw [mem_meaning]
  constructor
  · rintro ⟨t, inside, fits, rfl⟩
    exact ⟨fun x => has_bind_iff, t, inside, instantiates_bind fits⟩
  · rintro ⟨domain, t, inside, instantiates⟩
    exact ⟨t, inside, instantiates.fits, instantiates.bind_eq domain⟩

end Pattern

/-! ## Homomorphisms -/

/-- The solution binds the variables of the patterns and no others, and takes every pattern
to one of the triples. -/
structure IsHomomorphism (ps : List Pattern) (triples : List Triple) (s : Solution) : Prop where
  domain : ∀ x, s.has x = true ↔ ∃ p ∈ ps, x ∈ p.names
  maps : ∀ p ∈ ps, ∃ t ∈ triples, p.Instantiates s t

variable {ps : List Pattern} {p : Pattern}

theorem isHomomorphism_congr {qs : List Pattern} {triples' : List Triple}
    (samePatterns : ∀ p, p ∈ ps ↔ p ∈ qs) (sameTriples : ∀ t, t ∈ triples ↔ t ∈ triples') :
    IsHomomorphism ps triples s ↔ IsHomomorphism qs triples' s := by
  constructor
  · rintro ⟨domain, maps⟩
    simp only [samePatterns, sameTriples] at domain maps
    exact ⟨domain, maps⟩
  · rintro ⟨domain, maps⟩
    simp only [← samePatterns, ← sameTriples] at domain maps
    exact ⟨domain, maps⟩

/-- From no pattern at all there is the empty homomorphism alone. -/
theorem isHomomorphism_nil : IsHomomorphism [] triples s ↔ s = ∅ := by
  constructor
  · rintro ⟨domain, -⟩
    refine Bindings.ext_get? ?_
    intro x
    have unbound := domain x
    simpa [Bindings.has] using unbound
  · rintro rfl
    refine ⟨fun x => by simp [Bindings.has], ?_⟩
    intro p member
    cases member

/-- With one more pattern a homomorphism is what the pattern's solutions add to those from
the patterns before. -/
theorem isHomomorphism_concat :
    IsHomomorphism (ps ++ [p]) triples s ↔
      ∃ a, IsHomomorphism ps triples a ∧ ∃ b ∈ p.meaning triples, a.merge b = some s := by
  constructor
  · rintro ⟨domain, maps⟩
    -- cut the homomorphism at the names of the earlier patterns and at those of the last one
    let earlier := fun x => ps.any fun p => decide (x ∈ p.names)
    let last := fun x => decide (x ∈ p.names)
    have bound : ∀ x, s.has x = true ↔ earlier x = true ∨ last x = true := by
      intro x
      simp [domain, earlier, last]
    have cut : ∀ keep : String → Bool, (∀ x, keep x = true → s.has x = true) →
        ∀ x, Bindings.has (s.restrict keep) x = true ↔ keep x = true := by
      intro keep inside x
      by_cases kept : keep x = true
      · simpa [Bindings.has, kept] using inside x kept
      · simp [Bindings.has, kept]
    refine ⟨s.restrict earlier, ⟨?_, ?_⟩, s.restrict last, ?_, ?_⟩
    · intro x
      rw [cut earlier fun x inside => (bound x).2 (Or.inl inside)]
      simp [earlier]
    · intro r member
      obtain ⟨t, inside, instantiates⟩ := maps r (List.mem_append_left _ member)
      refine ⟨t, inside, instantiates.restrict ?_⟩
      intro x named
      exact List.any_eq_true.2 ⟨r, member, decide_eq_true named⟩
    · obtain ⟨t, inside, instantiates⟩ := maps p (by simp)
      refine Pattern.mem_meaning_iff.2 ⟨?_, t, inside, instantiates.restrict ?_⟩
      · intro x
        rw [cut last fun x inside => (bound x).2 (Or.inr inside)]
        exact decide_eq_true_iff
      · intro x named
        exact decide_eq_true named
    · exact Solution.merge_restrict s fun x has => (bound x).1 has
  · rintro ⟨a, before, b, found, merged⟩
    obtain ⟨onLast, t, inside, instantiates⟩ := Pattern.mem_meaning_iff.1 found
    refine ⟨?_, ?_⟩
    · intro x
      rw [Solution.has_of_merge merged, before.domain, onLast]
      simp
    · intro r member
      rcases List.mem_append.1 member with earlier | last
      · obtain ⟨u, inside, instantiates⟩ := before.maps r earlier
        exact ⟨u, inside, instantiates.of_partOf (Solution.partOf_of_merge merged)⟩
      · obtain rfl := List.mem_singleton.1 last
        exact ⟨t, inside, instantiates.of_partOf (Solution.partOf_of_merge_right merged)⟩

/-! ## Chains -/

theorem bgpMeaning_concat (ps : List Pattern) (p : Pattern) (triples : List Triple) :
    bgpMeaning (ps ++ [p]) triples =
      Bag.nestedLoop (bgpMeaning ps triples) (p.meaning triples) :=
  List.foldl_concat ..

/-- **A chain of patterns has the homomorphisms for its solutions.** -/
theorem mem_bgpMeaning : s ∈ bgpMeaning ps triples ↔ IsHomomorphism ps triples s := by
  induction ps using List.reverseRecOn generalizing s with
  | nil =>
      rw [isHomomorphism_nil]
      exact List.mem_singleton
  | append_singleton rest p ih =>
      rw [bgpMeaning_concat, Bag.mem_nestedLoop, isHomomorphism_concat]
      simp only [ih]

/-- Over distinct triples a chain has no solution twice. -/
theorem nodup_bgpMeaning (nodup : triples.Nodup) (ps : List Pattern) :
    (bgpMeaning ps triples).Nodup := by
  induction ps using List.reverseRecOn with
  | nil => exact List.nodup_singleton _
  | append_singleton rest p ih =>
      rw [bgpMeaning_concat]
      refine Bag.nodup_nestedLoop ih (p.nodup_meaning nodup) ?_ ?_
      · exact Bag.sameDomain_of_iff fun s inside => (mem_bgpMeaning.1 inside).domain
      · exact Bag.sameDomain_of_iff fun s inside => (Pattern.mem_meaning_iff.1 inside).1

namespace Algebra

/-- **A chain of patterns is answered by the homomorphisms into the dataset**, each of them
once.  Whatever triples were inserted, there is an answer, and a rearranged chain has a
rearranged one. -/
theorem bgp_enumerates_homomorphisms (ps : List Pattern) (inserted : List Triple)
    (fullIndexing : Bool) (clock : Clock) :
    ∃ m, ((bgp ps).answer (Store.ofTriples inserted).dataset ⟨fullIndexing, none⟩ clock
        .identity).result = .ok m ∧
      m.solutions.Nodup ∧
      (∀ s, s ∈ m.solutions ↔ IsHomomorphism ps inserted s) ∧
      ∀ qs, ps.Perm qs →
        ∃ n, ((bgp qs).answer (Store.ofTriples inserted).dataset ⟨fullIndexing, none⟩ clock
            .identity).result = .ok n ∧
          m.solutions.Perm n.solutions := by
  have nodup := nodup_eraseDups inserted
  have answered : ∀ ps : List Pattern,
      ∃ m, ((bgp ps).answer (Store.ofTriples inserted).dataset ⟨fullIndexing, none⟩ clock
          .identity).result = .ok m ∧
        m.solutions.Nodup ∧ ∀ s, s ∈ m.solutions ↔ IsHomomorphism ps inserted s := by
    intro ps
    obtain ⟨m, ended, narrows⟩ := outcome_evaluateBgp nodup fullIndexing ps .identity
    refine ⟨m, ?_, ?_, ?_⟩
    · rw [Store.dataset_ofTriples, result_answer]
      exact ended
    · rw [narrows.eq]
      exact nodup_bgpMeaning nodup ps
    · intro s
      rw [narrows.eq, mem_bgpMeaning]
      exact isHomomorphism_congr (fun _ => Iff.rfl) fun t => List.mem_eraseDups
  obtain ⟨m, ended, once, all⟩ := answered ps
  refine ⟨m, ended, once, all, ?_⟩
  intro qs arranged
  obtain ⟨n, ended', once', all'⟩ := answered qs
  refine ⟨n, ended', (List.perm_ext_iff_of_nodup once once').2 ?_⟩
  intro s
  rw [all, all']
  exact isHomomorphism_congr (fun p => arranged.mem_iff) fun _ => Iff.rfl

end Algebra

/-! A person and a colleague, where one telephone is known. -/

namespace Sample

def colleagues : List Pattern :=
  [inOffice "who", ⟨.const (.iri "ann"), .const (.iri "phone"), .const (.iri "112"), rfl⟩,
    inOffice "other"]

end Sample

/-- Two people in one office make four pairs, in whichever order the patterns are asked for;
one of the pairs is made of the two. -/
theorem Algebra.bgp_enumerates_homomorphisms_colleagues :
    ∃ m n,
      ((bgp Sample.colleagues).answer (Store.ofTriples Sample.facts).dataset ⟨true, none⟩ {}
        .identity).result = .ok m ∧
      ((bgp Sample.colleagues.reverse).answer (Store.ofTriples Sample.facts).dataset
        ⟨true, none⟩ {} .identity).result = .ok n ∧
      m.solutions.length = 4 ∧ m.solutions.Perm n.solutions ∧
      Bindings.ofList [("who", .iri "ann"), ("room", .iri "e7"), ("other", .iri "bob")] ∈
        n.solutions := by
  obtain ⟨m, ended, -, -, rearranged⟩ :=
    bgp_enumerates_homomorphisms Sample.colleagues Sample.facts true {}
  obtain ⟨n, ended', perm⟩ := rearranged _ (List.reverse_perm _).symm
  have found : m.solutions = bgpMeaning Sample.colleagues Sample.facts.eraseDups :=
    solutions_answer_identity ended
  refine ⟨m, n, ended, ended', ?_, perm, ?_⟩
  · rw [found]
    rfl
  · rw [← perm.mem_iff, found]
    decide

end TripleAlgebra
