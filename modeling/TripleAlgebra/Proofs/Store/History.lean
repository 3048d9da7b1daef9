/-
# TripleAlgebra.Proofs.Store.History -- what a store holds after any attempts to fill it

A history is a list of attempts, some of which offer a triple again and some of which offer
terms that form none.  A refused attempt leaves the store as it is, so the store after a
history is the one that was filled from the triples of its other attempts
(`takeAll_empty`), and that one is consistent.

What consistency means is then said of the store as a whole (`agrees_after_history`): its
triples are the accepted ones in the order of their first insertion, and every look-up,
every stored slot and the answer to every further insert agree with that list.
-/
import TripleAlgebra.Proofs.Store.Contents

namespace TripleAlgebra

set_option autoImplicit false

/-! ## Steps -/

namespace Store

/-- The triple that a step puts in, unless it is refused. -/
def Step.triple? : Step → Option Triple
  | .insert t => some t
  | .insertTerms a b c => (Triple.ofTerms a b c).toOption

/-- A step that offers a triple is answered by whether it was new and puts it in. -/
theorem take_of_triple? {step : Step} {t : Triple} (offered : step.triple? = some t)
    (s : Store) : s.take step = (.ok (!s.contains t), s.insert t) := by
  cases step with
  | insert u =>
      cases offered
      rfl
  | insertTerms a b c =>
      simp only [Step.triple?] at offered
      simp only [take, insertTerms]
      cases made : Triple.ofTerms a b c with
      | ok u =>
          rw [made] at offered
          cases offered
          rfl
      | error cause =>
          rw [made] at offered
          cases offered

/-- A step that offers no triple is answered by an error and changes nothing. -/
theorem take_of_triple?_eq_none {step : Step} (refused : step.triple? = none) (s : Store) :
    ∃ cause, s.take step = (.error cause, s) := by
  cases step with
  | insert u => cases refused
  | insertTerms a b c =>
      simp only [Step.triple?] at refused
      simp only [take, insertTerms]
      cases made : Triple.ofTerms a b c with
      | ok u =>
          rw [made] at refused
          cases refused
      | error cause => exact ⟨.invalidTriple cause, rfl⟩

theorem take_fst_eq_error_iff {step : Step} {s : Store} :
    (∃ cause, (s.take step).1 = .error cause) ↔ step.triple? = none := by
  constructor
  · rintro ⟨cause, refused⟩
    cases offered : step.triple? with
    | none => rfl
    | some t =>
        rw [take_of_triple? offered] at refused
        cases refused
  · intro none
    obtain ⟨cause, answer⟩ := take_of_triple?_eq_none none s
    exact ⟨cause, congrArg Prod.fst answer⟩

/-- Terms are refused when the first is a literal or the second no IRI. -/
theorem triple?_insertTerms_eq_none_iff {a b c : Term} :
    (Step.insertTerms a b c).triple? = none ↔ a.isLiteral = true ∨ b.isIri = false := by
  simp only [Step.triple?, Triple.ofTerms]
  by_cases literal : a.isLiteral = true
  · simp [literal, Except.toOption]
  · by_cases iri : b.isIri = true
    · simp [literal, iri, Except.toOption]
    · simp [literal, iri, Except.toOption]

/-- The triples that a history puts in, with repetitions. -/
def accepted (steps : List Step) : List Triple :=
  steps.filterMap Step.triple?

/-- A store is filled by the accepted triples of its history and by nothing else. -/
theorem takeAll_eq_foldl_insert (s : Store) (steps : List Step) :
    s.takeAll steps = (accepted steps).foldl insert s := by
  induction steps generalizing s with
  | nil => rfl
  | cons step rest ih =>
      have first : s.takeAll (step :: rest) = (s.take step).2.takeAll rest := rfl
      rw [first, ih]
      cases offered : step.triple? with
      | none =>
          obtain ⟨cause, same⟩ := take_of_triple?_eq_none offered s
          rw [same, accepted, accepted, List.filterMap_cons_none offered]
      | some t =>
          rw [take_of_triple? offered, accepted, accepted, List.filterMap_cons_some offered]
          rfl

theorem takeAll_empty (steps : List Step) : empty.takeAll steps = ofTriples (accepted steps) :=
  takeAll_eq_foldl_insert empty steps

/-- A store that is filled further has the accepted triples of both histories. -/
theorem takeAll_takeAll_empty (steps further : List Step) :
    (empty.takeAll steps).takeAll further = ofTriples (accepted steps ++ accepted further) := by
  rw [takeAll_eq_foldl_insert, takeAll_empty, ofTriples, ofTriples, List.foldl_append]

/-! ## Histories -/

/-- A slot that is looked at is one of the store's. -/
theorem Consistent.slot_lt_size {s : Store} (consistent : s.Consistent) {access : Access}
    {slot : Nat} (member : slot ∈ s.slotsOf access) : slot < s.size := by
  have found : s.triples[slot]? ∈ (s.triples.toList.filter access.admits).map some := by
    rw [← map_getElem?_slotsOf consistent]
    exact List.mem_map_of_mem member
  obtain ⟨t, -, here⟩ := List.mem_map.1 found
  exact (Array.getElem?_eq_some_iff.1 here.symm).1

/-- Inserting a triple that is there changes nothing. -/
theorem insert_of_contains {s : Store} {t : Triple} (present : s.contains t = true) :
    s.insert t = s := by
  rw [insert, if_pos present]

/-- **A store agrees with its history.**  Let `all` be the triples that the steps have put
in, each at its first insertion.

* The store lists exactly these, without repetition, and counts them.
* Every access leads through its slots, all of them in range, to the triples with its key,
  each once and in their order; the primary index has each triple at its slot, and a test
  finds exactly these triples.
* A further insert is answered by whether its triple is absent, and changes nothing if it
  is not; further terms are refused exactly when they form no triple, which changes nothing
  either. -/
theorem agrees_after_history (steps : List Step) :
    let s := empty.takeAll steps
    let all := (accepted steps).eraseDups
    (s.dataset.scan .all = .ok all ∧ all.Nodup ∧ s.size = all.length) ∧
    (∀ access,
      s.dataset.scan access = .ok (all.filter access.admits) ∧
      (all.filter access.admits).Nodup ∧
      (s.slotsOf access).map (fun slot => s.triples[slot]?) =
        (all.filter access.admits).map some ∧
      ∀ slot ∈ s.slotsOf access, slot < s.size) ∧
    (∀ (t : Triple) (slot : Nat), s.primary[t]? = some slot ↔ all[slot]? = some t) ∧
    (∀ t, s.dataset.contains t = .ok (decide (t ∈ all))) ∧
    (∀ t, (s.take (.insert t)).1 = .ok (decide (t ∉ all)) ∧
      (t ∈ all → (s.take (.insert t)).2 = s)) ∧
    ∀ a b c,
      ((∃ cause, (s.take (.insertTerms a b c)).1 = .error cause) ↔
        a.isLiteral = true ∨ b.isIri = false) ∧
      (a.isLiteral = true ∨ b.isIri = false → (s.take (.insertTerms a b c)).2 = s) := by
  intro s all
  have filled : s = ofTriples (accepted steps) := takeAll_empty steps
  have consistent : s.Consistent := filled ▸ consistent_ofTriples _
  have triples : s.triples.toList = all := by
    rw [filled]
    exact triples_ofTriples _
  have dataset : s.dataset = Dataset.listing all := by
    rw [filled]
    exact dataset_ofTriples _
  have nodup : all.Nodup := nodup_eraseDups _
  have known : ∀ t, s.contains t = decide (t ∈ all) := by
    intro t
    rw [Bool.eq_iff_iff, consistent.contains_iff, triples, decide_eq_true_iff]
  refine ⟨⟨?_, nodup, ?_⟩, ?_, ?_, ?_, ?_, ?_⟩
  · rw [dataset]
    exact congrArg Except.ok (List.filter_eq_self.2 fun t _ => rfl)
  · rw [← triples]
    exact Array.length_toList.symm
  · intro access
    refine ⟨by rw [dataset]; rfl, nodup.filter _, ?_, fun slot => consistent.slot_lt_size⟩
    rw [map_getElem?_slotsOf consistent, triples]
  · intro t slot
    rw [consistent.primary, ← triples, Array.getElem?_toList]
  · intro t
    rw [dataset]
    rfl
  · intro t
    refine ⟨?_, fun present => insert_of_contains ?_⟩
    · simp [take, known]
    · simp [known, present]
  · intro a b c
    rw [← triple?_insertTerms_eq_none_iff]
    refine ⟨take_fst_eq_error_iff, ?_⟩
    intro refused
    obtain ⟨cause, answer⟩ := take_of_triple?_eq_none refused s
    exact congrArg Prod.snd answer

/-- Of four attempts one has a literal for its subject and one offers a triple again.  Two
triples are left, which a look-up finds in their order; neither the known triple nor terms
with a blank node for their predicate change the store. -/
theorem agrees_after_history_office :
    let ann : Triple := ⟨.iri "ann", .iri "office", .iri "e7", rfl, rfl⟩
    let bob : Triple := ⟨.iri "bob", .iri "office", .iri "e7", rfl, rfl⟩
    let s := empty.takeAll
      [.insertTerms (.iri "ann") (.iri "office") (.iri "e7"),
        .insertTerms (.ofBool true) (.iri "office") (.iri "e7"), .insert bob, .insert ann]
    s.size = 2 ∧ s.dataset.scan (.byObject (.iri "e7")) = .ok [ann, bob] ∧
      (s.take (.insert ann)).2 = s ∧
      (s.take (.insertTerms (.iri "ann") (.blank "p") (.iri "e7"))).2 = s := by
  intro ann bob s
  obtain ⟨⟨-, -, size⟩, scans, -, -, inserts, terms⟩ := agrees_after_history
    [.insertTerms (.iri "ann") (.iri "office") (.iri "e7"),
      .insertTerms (.ofBool true) (.iri "office") (.iri "e7"), .insert bob, .insert ann]
  refine ⟨size.trans (by decide), ?_, (inserts ann).2 (by decide), ?_⟩
  · exact (scans (.byObject (.iri "e7"))).1.trans (by decide)
  · exact (terms _ _ _).2 (Or.inr rfl)

end Store

end TripleAlgebra
