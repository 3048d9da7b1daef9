/-
# TripleAlgebra.Proofs.Pattern.Safety -- a match over a dataset that may do anything

A match can be relied on whatever the dataset answers.  Its calls are planned from the
pattern and the input alone, one for each combination of given terms that may form a triple
(`Pattern.lookups`), and it keeps to the plan until a call is not served
(`Pattern.asks_evaluate`).

If all calls are served, every solution is read off a triple that the dataset returned to
one of them or confirmed, and this triple fits the pattern and agrees with one solution of
the input (`Pattern.Supports`).  Otherwise the first call that is not served ends the match:
with the dataset's own error if it failed, and else with the path of the scan that it broke
(`Pattern.match_safe`).
-/
import TripleAlgebra.Proofs.Algebra.Outcome
import TripleAlgebra.Proofs.Pattern.Answer

namespace TripleAlgebra

set_option autoImplicit false

open Evaluation

variable {d : Dataset}

/-! ## Plans -/

/-- The calls of a request: none if its terms form no triple. -/
def Request.calls : Request → List Call
  | scan access => [.scan access]
  | exactly s p o =>
      match Triple.ofTerms s p o with
      | .ok t => [.contains t]
      | .error _ => []

/-- A request fetches what is returned to its calls. -/
theorem Request.asks_fetch (d : Dataset) (r : Request) :
    r.fetch.Asks d r.calls (r.calls.flatMap d.returned) := by
  intro deadline clock
  cases r with
  | scan access =>
      simp only [fetch, run, calls, Transcript.through, Dataset.fault?, List.flatMap_singleton,
        Dataset.returned]
      cases d.scan access with
      | ok triples =>
          dsimp only
          cases access.violation? triples <;> rfl
      | error cause => rfl
  | exactly s p o =>
      simp only [fetch, calls]
      cases Triple.ofTerms s p o with
      | ok t =>
          simp only [run, Transcript.through, Dataset.fault?, List.flatMap_singleton,
            Dataset.returned]
          cases d.contains t <;> rfl
      | error cause => rfl

namespace Pattern

variable {p : Pattern} {fullIndexing : Bool} {input : Bag}

/-- The calls for one combination of given terms. -/
def lookup (fullIndexing : Bool) (p : Pattern) (given : Solution) : List Call :=
  (Request.ofKnown fullIndexing (p.known given)).calls

/-- The calls of a match, in order. -/
def lookups (fullIndexing : Bool) (p : Pattern) (input : Bag) : List Call :=
  (p.givens input).flatMap (p.lookup fullIndexing)

/-- What is found for one combination of given terms if its calls are served. -/
def found (d : Dataset) (fullIndexing : Bool) (p : Pattern) (given : Solution) : List Solution :=
  (((p.lookup fullIndexing given).flatMap d.returned).filter (p.accepts given)).map p.bind

theorem asks_matchGiven (d : Dataset) (fullIndexing : Bool) (p : Pattern) (given : Solution) :
    (p.matchGiven fullIndexing given).Asks d (p.lookup fullIndexing given)
      (p.found d fullIndexing given) :=
  (Request.asks_fetch d _).map fun triples => (triples.filter (p.accepts given)).map p.bind

theorem asks_matchGivens (d : Dataset) (fullIndexing : Bool) (p : Pattern)
    (givens : List Solution) :
    (p.matchGivens fullIndexing givens).Asks d (givens.flatMap (p.lookup fullIndexing))
      (givens.flatMap (p.found d fullIndexing)) := by
  induction givens with
  | nil => exact Asks.pure d []
  | cons given rest ih =>
      exact (p.asks_matchGiven d fullIndexing given).bind
        (ih.map fun others => p.found d fullIndexing given ++ others)

/-- **A match goes through its calls in order**, whatever the dataset answers. -/
theorem asks_evaluate (d : Dataset) (open_ : p.isGround = false) (fullIndexing : Bool)
    (input : Bag) :
    (p.evaluate fullIndexing input).Asks d (p.lookups fullIndexing input)
      (.ofSolutions p.names ((p.givens input).flatMap (p.found d fullIndexing))) := by
  rw [evaluate, if_neg (by simp [open_])]
  exact (p.asks_matchGivens d fullIndexing (p.givens input)).map (Bag.ofSolutions p.names)

/-! ## Solutions -/

/-- The solution is read off the triple, which carries the constants of the pattern and one
term at all places of each variable, and for the variables that the input fixes the terms of
one solution of the input. -/
structure Supports (p : Pattern) (input : Bag) (t : Triple) (s : Solution) : Prop where
  read : p.bind t = s
  constants : ∀ q term, p.get q = .const term → t.get q = term
  repeats : ∀ q r x, p.get q = .var x → p.get r = .var x → t.get q = t.get r
  narrowed : (∀ x ∈ p.names, x ∉ input.fixed) ∨
    ∃ i ∈ input.solutions, ∀ q x, p.get q = .var x → x ∈ input.fixed → i.get? x = some (t.get q)

/-- A triple that is accepted under a combination supports its solution. -/
theorem supports_of_accepts {given : Solution} {t : Triple} (member : given ∈ p.givens input)
    (accepted : p.accepts given t = true) : p.Supports input t (p.bind t) := by
  obtain ⟨carried, consistent⟩ := accepts_iff.1 accepted
  refine ⟨rfl, ?_, ?_, ?_⟩
  · intro q term constant
    exact carried q term (by simp [known, constant])
  · intro q r x first second
    exact isConsistent_iff.1 consistent r q x second first
  · rcases partOf_of_mem_givens member with none | ⟨i, inside, part⟩
    · left
      intro x named fixed
      have narrow : x ∈ p.narrowed input := NameSet.mem_inter.2 ⟨named, fixed⟩
      rw [none] at narrow
      exact NameSet.not_mem_empty x narrow
    · refine Or.inr ⟨i, inside, ?_⟩
      intro q x here fixed
      have narrow : x ∈ p.narrowed input := NameSet.mem_inter.2 ⟨mem_names.2 ⟨q, here⟩, fixed⟩
      obtain ⟨term, bound⟩ := Option.isSome_iff_exists.1 ((has_of_mem_givens member x).2 narrow)
      rw [carried q term (by simp [known, here, bound])]
      exact part x term bound

/-- What is found is supported by a triple that was returned to one of the calls. -/
theorem exists_supports {s : Solution}
    (inside : s ∈ (p.givens input).flatMap (p.found d fullIndexing)) :
    ∃ call ∈ p.lookups fullIndexing input, ∃ t ∈ d.returned call, p.Supports input t s := by
  obtain ⟨given, member, here⟩ := List.mem_flatMap.1 inside
  obtain ⟨t, kept, rfl⟩ := List.mem_map.1 here
  obtain ⟨returned, accepted⟩ := List.mem_filter.1 kept
  obtain ⟨call, asked, among⟩ := List.mem_flatMap.1 returned
  exact ⟨call, List.mem_flatMap.2 ⟨given, member, asked⟩, t, among,
    supports_of_accepts member accepted⟩

/-! ## Matches -/

/-- **A match is safe over any dataset.**  For a pattern with variables, whatever the dataset
answers and under every input:

* there is an answer if and only if every planned call is served; all of them are made then,
  and every solution is supported by a triple that was returned to one of them;
* the match ends with a broken contract if and only if a planned scan returns a triple that
  differs from its key, while every call before it is served, and the error names the path
  of this scan;
* it ends with an error of the dataset if and only if a planned call fails with this error,
  while every call before it is served;
* in both cases that call is the last one made; and no scan of all triples and no test
  breaks a contract. -/
theorem match_safe (d : Dataset) (open_ : p.isGround = false) (fullIndexing : Bool)
    (input : Bag) (deadline : Deadline) (clock : Clock) :
    let plan := p.lookups fullIndexing input
    let t := (p.evaluate fullIndexing input).run d deadline clock
    ((∃ m, t.result = .ok m) ↔ ∀ call ∈ plan, d.Serves call) ∧
    (∀ m, t.result = .ok m → t.calls = plan ∧
      ∀ s ∈ m.solutions, ∃ call ∈ t.calls, ∃ u ∈ d.returned call, p.Supports input u s) ∧
    (∀ path, (∃ text, t.result = .error (.contract path text)) ↔
      ∃ before access later, plan = before ++ .scan access :: later ∧
        (∀ earlier ∈ before, d.Serves earlier) ∧ d.Breaks access ∧ access.path = path ∧
        t.calls = before ++ [.scan access]) ∧
    (∀ cause, t.result = .error (.dataset cause) ↔
      ∃ before call later, plan = before ++ call :: later ∧
        (∀ earlier ∈ before, d.Serves earlier) ∧ d.FailsAt cause call ∧
        t.calls = before ++ [call]) ∧
    ∀ path text, t.result = .error (.contract path text) →
      path ≠ .fullScan ∧ path ≠ .contains := by
  intro plan t
  have made : t = .through d
      (.ofSolutions p.names ((p.givens input).flatMap (p.found d fullIndexing))) clock plan :=
    asks_evaluate d open_ fullIndexing input deadline clock
  rw [made]
  refine ⟨?_, ?_, fun path => Transcript.result_through_contract_iff,
    fun cause => Transcript.result_through_dataset_iff, ?_⟩
  · simp only [Transcript.result_through_eq_ok_iff, exists_eq_left]
  · intro m ended
    obtain ⟨rfl, all⟩ := Transcript.result_through_eq_ok_iff.1 ended
    rw [Transcript.through_of_serves all]
    exact ⟨rfl, fun s inside => exists_supports inside⟩
  · intro path text ended
    obtain ⟨-, access, -, -, -, breaks, rfl, -⟩ :=
      Transcript.result_through_contract_iff.1 ⟨text, ended⟩
    exact breaks.path_ne

end Pattern

/-! A dataset that returns all triples for a subject and says yes to every test. -/

namespace Sample

def misleading : Dataset :=
  (Dataset.listing facts).misleading [.bySubject, .contains]

/-- One of the two people, in a room that is not his. -/
def astray : Bag :=
  .ofSolutions ∅ [Bindings.ofList [("who", .iri "bob"), ("room", .iri "e9")]]

end Sample

/-- Asked for the triples of one person, the dataset returns one of the other, and this is
noticed.  Asked for a triple that it does not have, it is believed. -/
theorem Pattern.match_safe_misleading :
    (∃ text, (((Sample.inOffice "who").evaluate false Sample.bob).run Sample.misleading
      ⟨0, none⟩ {}).result = .error (.contract .bySubject text)) ∧
    ∃ m, (((Sample.inOffice "who").evaluate false Sample.astray).run Sample.misleading
        ⟨0, none⟩ {}).result = .ok m ∧
      m.solutions.length = 1 ∧
      ∀ s ∈ m.solutions, ∃ t, (Sample.inOffice "who").Supports Sample.astray t s := by
  obtain ⟨-, -, contract, -, -⟩ :=
    Pattern.match_safe (p := Sample.inOffice "who") Sample.misleading rfl false Sample.bob
      ⟨0, none⟩ {}
  obtain ⟨-, supported, -, -, -⟩ :=
    Pattern.match_safe (p := Sample.inOffice "who") Sample.misleading rfl false Sample.astray
      ⟨0, none⟩ {}
  have breaks : Sample.misleading.Breaks (.bySubject (.iri "bob")) :=
    ⟨Sample.fact "ann" "office" "e7", List.mem_cons_self, (.subject, .iri "bob"),
      List.mem_cons_self, by decide⟩
  refine ⟨(contract .bySubject).2 ⟨[], .bySubject (.iri "bob"), [], rfl, nofun, breaks, rfl, rfl⟩,
    _, rfl, rfl, ?_⟩
  intro s inside
  obtain ⟨-, sound⟩ := supported _ rfl
  obtain ⟨call, -, t, -, supports⟩ := sound s inside
  exact ⟨t, supports⟩

end TripleAlgebra
