/-
# TripleAlgebra.Proofs.Pattern.Economy -- how often a match asks, and what for

A request for known terms is one call, or none if all three terms are known and form no
triple (`Request.length_calls_ofKnown`).  The call has the path in use for the known
positions and names known terms only, so that it scans all triples only where nothing is
known (`Call.AsksFor`, `Request.asksFor_of_mem_calls`).

A match makes one request for each combination of given terms, in order
(`Pattern.forall₂_lookups`).  With all indexes in use a call names all that is known
(`AsksFor.mem_key_iff`), and what is known tells two combinations apart, so it makes no call
twice (`Pattern.nodup_lookups`).  With fewer indexes it may: two combinations that differ in
a term that was left out of the key make the same call.
-/
import Mathlib.Data.List.Forall2
import TripleAlgebra.Proofs.Pattern.Exactness

namespace TripleAlgebra

set_option autoImplicit false

open Evaluation

/-! ## Paths -/

namespace IndexPath

theorem effective_true (path : IndexPath) : path.effective true = path := rfl

theorem mem_keyPositions_forBound (bound : Position → Bool) {q : Position} :
    q ∈ (forBound (bound .subject) (bound .predicate) (bound .object)).keyPositions ↔
      bound q = true := by
  cases s : bound .subject <;> cases p : bound .predicate <;> cases o : bound .object <;>
    cases q <;> simp [forBound, keyPositions, s, p, o]

/-- Nothing is known where all triples are scanned. -/
theorem eq_false_of_fullScan (bound : Position → Bool) {fullIndexing : Bool}
    (scans : (forBound (bound .subject) (bound .predicate) (bound .object)).effective
      fullIndexing = fullScan) (q : Position) : bound q = false := by
  revert scans
  cases fullIndexing <;> cases s : bound .subject <;> cases p : bound .predicate <;>
    cases o : bound .object <;> cases q <;> simp [forBound, effective, s, p, o]

end IndexPath

/-! ## Calls -/

namespace Call

/-- The key: the terms that the call names, with their positions. -/
def key : Call → List (Position × Term)
  | scan access => access.key
  | contains t => [(.subject, t.subject), (.predicate, t.predicate), (.object, t.object)]

/-- The key stands at the key positions of the path. -/
theorem map_fst_key (call : Call) : call.key.map Prod.fst = call.path.keyPositions := by
  cases call with
  | scan access => exact access.map_fst_key
  | contains t => rfl

/-- A call is told by its path and its key. -/
theorem path_key_injective : Function.Injective fun call : Call => (call.path, call.key) := by
  intro c d same
  obtain ⟨samePath, sameKey⟩ := Prod.mk.inj same
  cases c with
  | scan a =>
      cases d with
      | scan b => cases a <;> cases b <;> cases samePath <;> cases sameKey <;> rfl
      | contains u => cases a <;> cases samePath
  | contains t =>
      cases d with
      | scan b => cases b <;> cases samePath
      | contains u =>
          simp only [key, List.cons.injEq, Prod.mk.injEq, true_and, and_true] at sameKey
          obtain ⟨s, p, o⟩ := sameKey
          exact congrArg contains (Triple.ext_get fun q => by cases q <;> assumption)

/-- A call that makes use of known terms: its path is the one in use for the known positions,
every term of its key is the one known at its position, and it scans all triples only if
nothing is known. -/
structure AsksFor (fullIndexing : Bool) (known : Position → Option Term) (call : Call) :
    Prop where
  path : call.path =
    (IndexPath.forBound (known .subject).isSome (known .predicate).isSome
      (known .object).isSome).effective fullIndexing
  key : ∀ q term, (q, term) ∈ call.key → known q = some term
  fullScan : call.path = .fullScan → ∀ q, known q = none

variable {known known' : Position → Option Term} {call : Call}

/-- With all indexes in use the key holds all that is known. -/
theorem AsksFor.mem_key_iff (asks : call.AsksFor true known) {q : Position} {term : Term} :
    (q, term) ∈ call.key ↔ known q = some term := by
  refine ⟨asks.key q term, ?_⟩
  intro here
  have keyed : q ∈ call.key.map Prod.fst := by
    rw [map_fst_key, asks.path, IndexPath.effective_true]
    exact (IndexPath.mem_keyPositions_forBound fun q => (known q).isSome).2 (by simp [here])
  obtain ⟨⟨_, other⟩, inKey, rfl⟩ := List.mem_map.1 keyed
  have same : other = term := Option.some.inj ((asks.key _ other inKey).symm.trans here)
  rwa [same] at inKey

/-- With all indexes in use what is known can be read off the call. -/
theorem AsksFor.known_unique (first : call.AsksFor true known)
    (second : call.AsksFor true known') : known = known' := by
  funext q
  refine Option.ext ?_
  intro term
  rw [← first.mem_key_iff, second.mem_key_iff]

end Call

/-! ## Requests -/

/-- All three terms are known and form no triple: the first is a literal or the second is no
IRI. -/
def formNoTriple (known : Position → Option Term) : Bool :=
  match known .subject, known .predicate, known .object with
  | some s, some p, some _ => s.isLiteral || !p.isIri
  | _, _, _ => false

namespace Request

variable {known : Position → Option Term} {fullIndexing : Bool} {call : Call}

/-- The terms that the request names, with their positions. -/
def key : Request → List (Position × Term)
  | scan access => access.key
  | exactly s p o => [(.subject, s), (.predicate, p), (.object, o)]

/-- A request names known terms only. -/
theorem known_of_mem_key {q : Position} {term : Term}
    (member : (q, term) ∈ (ofKnown fullIndexing known).key) : known q = some term := by
  unfold ofKnown at member
  split at member <;> cases fullIndexing <;> grind [key, Access.key]

/-- The call of a request has its path and its key. -/
theorem path_key_of_mem_calls {r : Request} (member : call ∈ r.calls) :
    call.path = r.path ∧ call.key = r.key := by
  cases r with
  | scan access =>
      obtain rfl := List.mem_singleton.1 member
      exact ⟨rfl, rfl⟩
  | exactly s p o =>
      simp only [calls] at member
      split at member
      · rename_i t made
        obtain rfl := List.mem_singleton.1 member
        obtain ⟨rfl, rfl, rfl⟩ := Triple.ofTerms_eq_ok_iff.1 made
        exact ⟨rfl, rfl⟩
      · cases member

theorem asksFor_of_mem_calls (member : call ∈ (ofKnown fullIndexing known).calls) :
    call.AsksFor fullIndexing known := by
  obtain ⟨path, key⟩ := path_key_of_mem_calls member
  rw [path_ofKnown] at path
  refine ⟨path, ?_, ?_⟩
  · intro q term inKey
    rw [key] at inKey
    exact known_of_mem_key inKey
  · intro scans q
    have unbound := IndexPath.eq_false_of_fullScan (fun q => (known q).isSome)
      (path.symm.trans scans) q
    simpa using unbound

/-- A request is one call, or none where its terms form no triple. -/
theorem length_calls_ofKnown (fullIndexing : Bool) (known : Position → Option Term) :
    (ofKnown fullIndexing known).calls.length = if formNoTriple known then 0 else 1 := by
  cases hs : known .subject <;> cases hp : known .predicate <;> cases ho : known .object
  case some.some.some s p o =>
    simp only [formNoTriple, ofKnown, hs, hp, ho, calls, Triple.ofTerms]
    by_cases literal : s.isLiteral = true
    · simp [literal]
    · by_cases iri : p.isIri = true <;> simp [literal, iri]
  all_goals simp [formNoTriple, ofKnown, hs, hp, ho, calls]

end Request

/-! ## Plans -/

namespace Pattern

variable {p : Pattern} {input : Bag} {a b : Solution}

/-- For each combination there is one call, unless its terms form no triple. -/
theorem lookup_cases (fullIndexing : Bool) (p : Pattern) (given : Solution) :
    (formNoTriple (p.known given) = true ∧ p.lookup fullIndexing given = []) ∨
      (formNoTriple (p.known given) = false ∧ ∃ call, p.lookup fullIndexing given = [call] ∧
        call.AsksFor fullIndexing (p.known given)) := by
  have count := Request.length_calls_ofKnown fullIndexing (p.known given)
  by_cases none : formNoTriple (p.known given) = true
  · rw [if_pos none] at count
    exact Or.inl ⟨none, List.length_eq_zero_iff.1 count⟩
  · rw [if_neg none] at count
    obtain ⟨call, single⟩ := List.length_eq_one_iff.1 count
    refine Or.inr ⟨by simpa using none, call, single, ?_⟩
    exact Request.asksFor_of_mem_calls (single ▸ List.mem_cons_self)

theorem forall₂_lookups (fullIndexing : Bool) (p : Pattern) (givens : List Solution) :
    List.Forall₂ (fun given call => call.AsksFor fullIndexing (p.known given))
      (givens.filter fun given => !formNoTriple (p.known given))
      (givens.flatMap (p.lookup fullIndexing)) := by
  induction givens with
  | nil => exact List.Forall₂.nil
  | cons given rest ih =>
      rw [List.filter_cons, List.flatMap_cons]
      rcases p.lookup_cases fullIndexing given with ⟨refused, none⟩ | ⟨some, call, single, asks⟩
      · simpa [refused, none] using ih
      · simpa [some, single] using ⟨asks, ih⟩

/-- A pattern with variables does not know all three terms by itself. -/
theorem formNoTriple_known_empty (open_ : p.isGround = false) :
    formNoTriple (p.known ∅) = false := by
  have unknown : ∃ q, p.known ∅ q = none := by
    by_contra all
    have ground : p.isGround = true := by
      refine isGround_iff.2 ?_
      intro q
      cases slot : p.get q with
      | const term => exact ⟨term, rfl⟩
      | var name => exact absurd ⟨q, by simp [known, slot]⟩ all
    simp [ground] at open_
  obtain ⟨q, none⟩ := unknown
  unfold formNoTriple
  cases q <;> simp [none]

/-- Combinations under which the same is known are the same. -/
theorem givens_ext (first : a ∈ p.givens input) (second : b ∈ p.givens input)
    (same : p.known a = p.known b) : a = b := by
  refine Bindings.ext_get? ?_
  intro x
  by_cases narrow : x ∈ p.narrowed input
  · obtain ⟨q, here⟩ := mem_names.1 (NameSet.mem_inter.1 narrow).1
    have atPlace := congrFun same q
    simpa only [known, here] using atPlace
  · have unbound : ∀ given ∈ p.givens input, given.get? x = none := by
      intro given member
      have lacks := mt (has_of_mem_givens member x).1 narrow
      simpa [Bindings.has] using lacks
    rw [unbound a first, unbound b second]

/-- **With all indexes in use no call is made twice.** -/
theorem nodup_lookups (p : Pattern) (input : Bag) : (p.lookups true input).Nodup := by
  rw [lookups, List.nodup_flatMap]
  constructor
  · intro given _
    rcases p.lookup_cases true given with ⟨-, none⟩ | ⟨-, call, single, -⟩
    · rw [none]
      exact List.nodup_nil
    · rw [single]
      exact List.nodup_singleton call
  · refine (p.nodup_givens input).imp_of_mem ?_
    intro a b first second different call forA forB
    have same := (Request.asksFor_of_mem_calls forA).known_unique
      (Request.asksFor_of_mem_calls forB)
    exact different (givens_ext first second same)

/-- Without variables there is one request, for the triple of the constants. -/
theorem lookups_of_isGround (ground : p.isGround = true) (fullIndexing : Bool) (input : Bag) :
    ∃ a b c, p.get .subject = .const a ∧ p.get .predicate = .const b ∧ p.get .object = .const c ∧
      b.isIri = true ∧ p.lookups fullIndexing input = (Request.exactly a b c).calls := by
  obtain ⟨a, ha⟩ := isGround_iff.1 ground .subject
  obtain ⟨b, hb⟩ := isGround_iff.1 ground .predicate
  obtain ⟨c, hc⟩ := isGround_iff.1 ground .object
  have iri : b.isIri = true := by
    have fits := p.predicate_fits
    rwa [show p.predicate = .const b from hb] at fits
  refine ⟨a, b, c, ha, hb, hc, iri, ?_⟩
  rw [lookups, givens_of_narrowed_eq (narrowed_of_isGround ground input),
    List.flatMap_singleton, lookup]
  simp only [known, Request.ofKnown, ha, hb, hc]

/-! ## Matches -/

/-- **A match makes no call that it could do without.**  Over any store, under any input and
deadline:

* for a pattern without variables there is one call, a test for its triple, or none if the
  subject is a literal;
* for a pattern with variables, none of which the input fixes, there is one call, which uses
  the constants;
* else there is one call for each distinct combination of terms that the input has for the
  fixed variables, in the order of first appearance, but none for a combination under which
  all three terms are known and form no triple;
* with all indexes in use no two calls have the same path and the same key.

Each call uses the terms known under its combination: they are its key, at their positions,
and all triples are scanned only if no term is known. -/
theorem match_economical (p : Pattern) (history : List Store.Step) (fullIndexing : Bool)
    (input : Bag) (deadline : Deadline) (clock : Clock) :
    let s := Store.empty.takeAll history
    let t := (p.evaluate fullIndexing input).run s.dataset deadline clock
    let fixed := p.names ∩ input.fixed
    (p.isGround = true →
      ∃ a b c, p.get .subject = .const a ∧ p.get .predicate = .const b ∧
        p.get .object = .const c ∧ (a.isLiteral = true → t.calls = []) ∧
        (a.isLiteral = false →
          ∃ u, u.subject = a ∧ u.predicate = b ∧ u.object = c ∧ t.calls = [.contains u])) ∧
    (p.isGround = false → fixed = ∅ →
      ∃ call, t.calls = [call] ∧ call.AsksFor fullIndexing (p.known ∅)) ∧
    (p.isGround = false → fixed ≠ ∅ →
      List.Forall₂ (fun tuple call => call.AsksFor fullIndexing (p.known tuple))
        ((input.tuples fixed).filter fun tuple => !formNoTriple (p.known tuple)) t.calls) ∧
    (fullIndexing = true → (t.calls.map fun call => (call.path, call.key)).Nodup) := by
  intro s t fixed
  have made : t.calls = p.lookups fullIndexing input := by
    simp only [t, s, Store.takeAll_empty, Store.dataset_ofTriples]
    rw [run_evaluate (nodup_eraseDups _)]
  rw [made]
  refine ⟨?_, ?_, ?_, ?_⟩
  · intro ground
    obtain ⟨a, b, c, ha, hb, hc, iri, plan⟩ := lookups_of_isGround ground fullIndexing input
    rw [plan]
    refine ⟨a, b, c, ha, hb, hc, ?_, ?_⟩
    · intro literal
      simp [Request.calls, Triple.ofTerms, literal]
    · intro resource
      refine ⟨⟨a, b, c, resource, iri⟩, rfl, rfl, rfl, ?_⟩
      simp [Request.calls, Triple.ofTerms, resource, iri]
  · intro open_ none
    rw [lookups, givens_of_narrowed_eq none, List.flatMap_singleton]
    rcases p.lookup_cases fullIndexing ∅ with ⟨refused, -⟩ | ⟨-, one⟩
    · cases refused.symm.trans (formNoTriple_known_empty open_)
    · exact one
  · intro _ some
    have combinations : p.givens input = input.tuples fixed := givens_of_narrowed_ne some
    rw [← combinations]
    exact p.forall₂_lookups fullIndexing (p.givens input)
  · rintro rfl
    exact (p.nodup_lookups input).map Call.path_key_injective

end Pattern

/-- Of four guests one comes twice and one is a truth value, which can like nobody, so there
are two calls.  Nor is a literal asked for that is the subject of a pattern. -/
theorem Pattern.match_economical_guests :
    let s := Store.empty.takeAll Sample.likings
    let calls (p : Pattern) := ((p.evaluate true Sample.guests).run s.dataset ⟨0, some 1⟩ {}).calls
    (calls Sample.selfLiking).length = 2 ∧
      ((calls Sample.selfLiking).map fun call => (call.path, call.key)).Nodup ∧
      calls ⟨.const (.ofBool true), .const (.iri "likes"), .const (.iri "bob"), rfl⟩ = [] := by
  intro s calls
  obtain ⟨-, -, forEach, distinct⟩ :=
    match_economical Sample.selfLiking Sample.likings true Sample.guests ⟨0, some 1⟩ {}
  obtain ⟨ground, -, -, -⟩ :=
    match_economical ⟨.const (.ofBool true), .const (.iri "likes"), .const (.iri "bob"), rfl⟩
      Sample.likings true Sample.guests ⟨0, some 1⟩ {}
  obtain ⟨a, b, c, subject, -, -, none, -⟩ := ground rfl
  obtain rfl := Slot.const.inj subject
  refine ⟨?_, distinct rfl, none rfl⟩
  exact (forEach rfl (by decide)).length_eq.symm.trans (by decide)

end TripleAlgebra
