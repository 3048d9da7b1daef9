/-
# TripleAlgebra.Proofs.Pattern.Exactness -- what a match over a store finds, and in which order

Over a list of distinct triples every call is served and no checkpoint stands between the
calls, so a match makes all that it plans and has its answer, whatever the deadline
(`run_evaluate`).

The answer is read off the triples that fit the pattern, each of which binds all names of
the pattern.  A combination of given terms selects the solutions that have it
(`filter_compatible_meaning`), and a solution has one combination only.  So the answer goes
combination by combination, in the order in which the input first has them, and under each
of them in the order of the triples (`match_exact`).  Nothing of that depends on where in the
pattern a narrowed variable stands, how often it stands there, whether its terms could stand
there at all, or which index serves the call.
-/
import TripleAlgebra.Proofs.Pattern.Safety
import TripleAlgebra.Proofs.Store.History

namespace TripleAlgebra

set_option autoImplicit false

open Evaluation

/-- The distinct combinations of terms that the solutions have for some names, in the order in
which they first occur. -/
def Bag.tuples (b : Bag) (names : NameSet) : List Solution :=
  (b.solutions.map fun s => s.restrict fun x => x ∈ names).eraseDups

theorem Dataset.serves_listing (triples : List Triple) (call : Call) :
    (Dataset.listing triples).Serves call := by
  rw [← fault?_eq_none_iff]
  cases call with
  | scan access => exact access.violation?_filter_admits triples
  | contains t => rfl

namespace Pattern

variable {p : Pattern} {input : Bag} {triples : List Triple}

/-! ## Combinations -/

theorem narrowed_of_isGround (ground : p.isGround = true) (input : Bag) :
    p.narrowed input = ∅ := by
  refine NameSet.ext_mem ?_
  intro x
  simp only [narrowed, NameSet.mem_inter, NameSet.not_mem_empty, iff_false, not_and]
  intro named
  obtain ⟨q, here⟩ := mem_names.1 named
  obtain ⟨term, constant⟩ := isGround_iff.1 ground q
  cases here.symm.trans constant

theorem givens_of_narrowed_eq (none : p.narrowed input = ∅) : p.givens input = [∅] :=
  if_pos none

theorem givens_of_narrowed_ne (some : p.narrowed input ≠ ∅) :
    p.givens input = input.tuples (p.narrowed input) :=
  if_neg some

/-! ## Runs -/

/-- With or without variables, a match goes through its calls in order. -/
theorem exists_asks_evaluate (d : Dataset) (p : Pattern) (fullIndexing : Bool) (input : Bag) :
    ∃ b, (p.evaluate fullIndexing input).Asks d (p.lookups fullIndexing input) b := by
  by_cases ground : p.isGround = true
  · rw [lookups, givens_of_narrowed_eq (narrowed_of_isGround ground input),
      List.flatMap_singleton, evaluate, if_pos ground]
    exact ⟨_, (Request.asks_fetch d _).map fun found =>
      if found.isEmpty then Bag.null else Bag.identity⟩
  · exact ⟨_, asks_evaluate d (by simpa using ground) fullIndexing input⟩

/-- **Over distinct triples a match makes all its calls and has its answer**, under every
deadline. -/
theorem run_evaluate (nodup : triples.Nodup) (p : Pattern) (fullIndexing : Bool) (input : Bag)
    (deadline : Deadline) (clock : Clock) :
    (p.evaluate fullIndexing input).run (Dataset.listing triples) deadline clock =
      ⟨.ok (p.answer triples input), clock, p.lookups fullIndexing input⟩ := by
  obtain ⟨b, asks⟩ := exists_asks_evaluate (Dataset.listing triples) p fullIndexing input
  have served : ∀ deadline, (p.evaluate fullIndexing input).run (Dataset.listing triples)
      deadline clock = ⟨.ok b, clock, p.lookups fullIndexing input⟩ := by
    intro deadline
    rw [asks deadline clock]
    exact Transcript.through_of_serves fun call _ => Dataset.serves_listing triples call
  -- the value is the one that the match comes to without a deadline
  have unlimited := congrArg Transcript.result
    ((run_unlimited (Dataset.listing triples) 0 _ clock).symm.trans (served ⟨0, none⟩))
  have value : Except.ok (p.answer triples input) = Except.ok b :=
    (outcome_evaluate nodup fullIndexing p input).symm.trans unlimited
  rw [served, value]

/-! ## Solutions -/

theorem meaning_of_isGround_eq_false (open_ : p.isGround = false) (triples : List Triple) :
    p.meaning triples = (triples.filter p.fits).map p.bind :=
  if_neg (by simp [open_])

/-- A pattern without variables fits its own triple alone. -/
theorem fits_iff_of_isGround (ground : p.isGround = true) {t : Triple} :
    p.fits t = true ↔ ∀ q, p.get q = .const (t.get q) := by
  rw [fits_iff]
  constructor
  · rintro ⟨constants, -⟩ q
    obtain ⟨term, here⟩ := isGround_iff.1 ground q
    rw [constants q term here, here]
  · intro all
    refine ⟨?_, ?_⟩
    · intro q term here
      exact Slot.const.inj ((all q).symm.trans here)
    · intro q r name first
      cases (all q).symm.trans first

/-- The solutions compatible with a combination are those that have it. -/
theorem filter_compatible_meaning {given : Solution} (member : given ∈ p.givens input) :
    (p.meaning triples).filter given.compatible =
      (p.meaning triples).filter fun m =>
        m.restrict (fun x => x ∈ p.narrowed input) = given := by
  refine List.filter_congr ?_
  intro m inside
  obtain ⟨t, -, -, rfl⟩ := mem_meaning.1 inside
  rw [Bool.eq_iff_iff, decide_eq_true_iff]
  exact compatible_bind_iff member t

/-- Solutions of the pattern bind no other names. -/
theorem names_union_boundNames {l : List Solution} (known : ∀ m ∈ l, m ∈ p.meaning triples) :
    p.names ∪ boundNames l = p.names := by
  refine NameSet.ext_mem ?_
  intro x
  rw [NameSet.mem_union, mem_boundNames]
  refine or_iff_left_of_imp ?_
  rintro ⟨m, inside, bound⟩
  obtain ⟨t, -, -, rfl⟩ := mem_meaning.1 (known m inside)
  exact has_bind_iff.1 (Bindings.has_eq_true_iff.2 bound)

/-- With variables the answer declares their names and goes through the combinations. -/
theorem answer_of_isGround_eq_false (open_ : p.isGround = false) (triples : List Triple)
    (input : Bag) :
    p.answer triples input = .regular p.names
      ((p.givens input).flatMap fun given => (p.meaning triples).filter given.compatible) := by
  rw [answer, if_neg (by simp [open_]), Bag.ofSolutions, names_union_boundNames]
  intro m inside
  obtain ⟨given, -, here⟩ := List.mem_flatMap.1 inside
  exact (List.mem_filter.1 here).1

/-- Under an input that fixes none of the names all solutions are found. -/
theorem solutions_of_narrowed_eq (none : p.narrowed input = ∅) (triples : List Triple) :
    ((p.givens input).flatMap fun given => (p.meaning triples).filter given.compatible) =
      p.meaning triples := by
  have every : Solution.compatible ∅ = fun _ => true := funext Solution.empty_compatible
  rw [givens_of_narrowed_eq none, List.flatMap_singleton, every, List.filter_true]

/-- Else they are found by the terms that the input has for the fixed names. -/
theorem solutions_of_narrowed_ne (some : p.narrowed input ≠ ∅) (triples : List Triple) :
    ((p.givens input).flatMap fun given => (p.meaning triples).filter given.compatible) =
      (input.tuples (p.narrowed input)).flatMap fun tuple =>
        (p.meaning triples).filter fun m =>
          m.restrict (fun x => x ∈ p.narrowed input) = tuple := by
  rw [← givens_of_narrowed_ne some]
  exact List.flatMap_congr fun given member => filter_compatible_meaning member

/-! ## Matches -/

/-- **Narrowed matching is exact.**  Let `all` be the triples of a store in the order of their
insertion and `found` what those that fit the pattern bind, in this order.

* A pattern with variables has a regular bag for its answer, which declares the names of the
  pattern and holds no solution twice.  If the input fixes none of the names its solutions are
  `found`; else they are, for each distinct combination of terms that the input has for the
  fixed names, in the order of first appearance, the part of `found` that has this
  combination.
* A pattern without variables has `identity` for its answer if its triple is there and `null`
  if not, under every input.

There always is an answer, whichever indexes are in use and whatever the deadline. -/
theorem match_exact (p : Pattern) (history : List Store.Step) (fullIndexing : Bool)
    (input : Bag) (deadline : Deadline) (clock : Clock) :
    let s := Store.empty.takeAll history
    let t := (p.evaluate fullIndexing input).run s.dataset deadline clock
    let all := (Store.accepted history).eraseDups
    let found := (all.filter p.fits).map p.bind
    let fixed := p.names ∩ input.fixed
    (p.isGround = false → ∃ l, t.result = .ok (.regular p.names l) ∧ l.Nodup ∧
      (fixed = ∅ → l = found) ∧
      (fixed ≠ ∅ → l = (input.tuples fixed).flatMap fun tuple =>
        found.filter fun m => m.restrict (fun x => x ∈ fixed) = tuple)) ∧
    (p.isGround = true →
      ((∃ u ∈ all, ∀ q, p.get q = .const (u.get q)) → t.result = .ok .identity) ∧
      ((¬ ∃ u ∈ all, ∀ q, p.get q = .const (u.get q)) → t.result = .ok .null)) := by
  intro s t all found fixed
  have nodup : all.Nodup := nodup_eraseDups _
  have ended : t.result = .ok (p.answer all input) := by
    simp only [t, s, Store.takeAll_empty, Store.dataset_ofTriples]
    rw [run_evaluate nodup]
  rw [ended]
  constructor
  · intro open_
    have meaning : p.meaning all = found := meaning_of_isGround_eq_false open_ all
    rw [← meaning]
    refine ⟨_, congrArg Except.ok (answer_of_isGround_eq_false open_ all input),
      nodup_answer nodup p input, ?_, ?_⟩
    · intro none
      exact solutions_of_narrowed_eq none all
    · intro some
      exact solutions_of_narrowed_ne some all
  · intro ground
    simp only [answer, if_pos ground, ← fits_iff_of_isGround ground, ← List.any_eq_true]
    refine ⟨?_, ?_⟩
    · intro present
      rw [if_pos present]
    · intro absent
      rw [if_neg absent]

end Pattern

/-! Two people who like themselves, and an input that names them with a truth value between
them. -/

namespace Sample

def likings : List Store.Step :=
  [.insert (fact "ann" "likes" "ann"), .insert (fact "ann" "likes" "bob"),
    .insertTerms (.iri "bob") (.iri "likes") (.iri "bob"), .insert (fact "ann" "likes" "ann")]

/-- Who likes himself. -/
def selfLiking : Pattern :=
  ⟨.var "who", .const (.iri "likes"), .var "who", rfl⟩

/-- That the first one likes the other. -/
def annLikesBob : Pattern :=
  ⟨.const (.iri "ann"), .const (.iri "likes"), .const (.iri "bob"), rfl⟩

def guests : Bag :=
  .ofSolutions ∅ [person "bob", Bindings.ofList [("who", .ofBool true)],
    (person "bob").insert "room" (.iri "e7"), person "ann"]

end Sample

/-- Those who like themselves come in the order of the input, each once, and nothing comes of
the truth value.  A pattern without variables has no regard to the input. -/
theorem Pattern.match_exact_guests :
    let s := Store.empty.takeAll Sample.likings
    let result (p : Pattern) :=
      ((p.evaluate false Sample.guests).run s.dataset ⟨0, some 1⟩ {}).result
    result Sample.selfLiking =
        .ok (.regular (.ofList ["who"]) [Sample.person "bob", Sample.person "ann"]) ∧
      result Sample.annLikesBob = .ok .identity := by
  intro s result
  obtain ⟨narrowed, -⟩ :=
    match_exact Sample.selfLiking Sample.likings false Sample.guests ⟨0, some 1⟩ {}
  obtain ⟨l, ended, -, -, solutions⟩ := narrowed rfl
  obtain ⟨-, ground⟩ :=
    match_exact Sample.annLikesBob Sample.likings false Sample.guests ⟨0, some 1⟩ {}
  obtain ⟨present, -⟩ := ground rfl
  have inOrder : l = [Sample.person "bob", Sample.person "ann"] :=
    (solutions (by decide)).trans (by decide)
  constructor
  · rw [inOrder] at ended
    exact ended
  · refine present ⟨Sample.fact "ann" "likes" "bob", by decide, ?_⟩
    intro q
    cases q <;> rfl

end TripleAlgebra
