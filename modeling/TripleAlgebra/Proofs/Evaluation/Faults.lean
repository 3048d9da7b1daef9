/-
# TripleAlgebra.Proofs.Evaluation.Faults -- calls that a dataset does not serve

Nothing is known of a dataset but its answers.  A call to it can go wrong in two ways: the
dataset fails it, or it answers a scan with a triple that lacks a term of the key.  A dataset
serves a call if it does neither, and the fault of a call is the error that a match ends
with because of it (`Dataset.fault?`).

A match knows its calls beforehand.  It makes one after the other until one of them is not
served, and has its value if all of them are.  `Evaluation.Asks` says that of an evaluation,
and holds of a sequence if it holds of both parts (`Asks.bind`).  The result is then settled
by the first call that is not served (`result_through_eq_ok_iff`,
`result_through_contract_iff`, `result_through_dataset_iff`).
-/
import TripleAlgebra.Pattern.Matching
import TripleAlgebra.Proofs.Evaluation.Calls
import TripleAlgebra.Proofs.Evaluation.Run

namespace TripleAlgebra

set_option autoImplicit false

/-! ## Broken scans -/

namespace Access

variable {a : Access} {triples : List Triple}

theorem violation?_eq_none_iff :
    a.violation? triples = none ↔ ∀ t ∈ triples, a.admits t = true := by
  simp only [violation?, List.findSome?_eq_none_iff, admits_eq_true_iff]
  simp

/-- A violation is reported of the path of the scan. -/
theorem eq_contract_of_violation? {e : EvaluationError}
    (broken : a.violation? triples = some e) : ∃ text, e = .contract a.path text := by
  obtain ⟨t, -, atTriple⟩ := List.exists_of_findSome?_eq_some broken
  obtain ⟨entry, -, atEntry⟩ := List.exists_of_findSome?_eq_some atTriple
  split at atEntry
  · cases atEntry
  · exact ⟨_, (Option.some.inj atEntry).symm⟩

end Access

/-! ## Faults -/

namespace Dataset

/-- The triples that the dataset returns to a call.  A test that succeeds confirms its own
triple, and a call that fails returns none. -/
def returned (d : Dataset) : Call → List Triple
  | .scan access =>
      match d.scan access with
      | .ok triples => triples
      | .error _ => []
  | .contains t =>
      match d.contains t with
      | .ok present => if present then [t] else []
      | .error _ => []

/-- The dataset returns a triple that differs from the key of the scan at one of its
positions. -/
def Breaks (d : Dataset) (access : Access) : Prop :=
  ∃ t ∈ d.returned (.scan access), ∃ entry ∈ access.key, t.get entry.1 ≠ entry.2

/-- The dataset neither fails the call nor breaks it. -/
structure Serves (d : Dataset) (call : Call) : Prop where
  answers : ∀ cause, ¬ d.FailsAt cause call
  keeps : ∀ access, call = .scan access → ¬ d.Breaks access

/-- The error that a match ends with after a call that is not served. -/
def fault? (d : Dataset) : Call → Option EvaluationError
  | .scan access =>
      match d.scan access with
      | .ok triples => access.violation? triples
      | .error cause => some (.dataset cause)
  | .contains t =>
      match d.contains t with
      | .ok _ => none
      | .error cause => some (.dataset cause)

variable {d : Dataset} {call : Call}

/-- Only a scan with a key can be broken. -/
theorem Breaks.path_ne {access : Access} (breaks : d.Breaks access) :
    access.path ≠ .fullScan ∧ access.path ≠ .contains := by
  constructor
  · intro full
    obtain ⟨t, -, entry, inKey, -⟩ := breaks
    cases access <;> cases full
    cases inKey
  · intro test
    cases access <;> cases test

theorem breaks_iff {access : Access} {triples : List Triple}
    (answer : d.scan access = .ok triples) :
    d.Breaks access ↔ access.violation? triples ≠ none := by
  rw [Ne, Access.violation?_eq_none_iff]
  simp [Breaks, returned, answer, Access.admits_eq_true_iff]

/-- The fault is the dataset's own error where the dataset fails the call. -/
theorem fault?_eq_dataset_iff {cause : DatasetError} :
    d.fault? call = some (.dataset cause) ↔ d.FailsAt cause call := by
  cases call with
  | scan access =>
      cases answer : d.scan access with
      | ok triples =>
          simp only [fault?, FailsAt, answer, reduceCtorEq, iff_false]
          intro broken
          obtain ⟨text, other⟩ := Access.eq_contract_of_violation? broken
          cases other
      | error cause' => simp [fault?, FailsAt, answer]
  | contains t =>
      cases answer : d.contains t with
      | ok present => simp [fault?, FailsAt, answer]
      | error cause' => simp [fault?, FailsAt, answer]

/-- The fault is a broken contract where the call is a scan that the dataset breaks, and it
names the path of the scan. -/
theorem fault?_contract_iff {path : IndexPath} :
    (∃ text, d.fault? call = some (.contract path text)) ↔
      ∃ access, call = .scan access ∧ access.path = path ∧ d.Breaks access := by
  cases call with
  | scan access =>
      cases answer : d.scan access with
      | ok triples =>
          simp only [fault?, answer]
          constructor
          · rintro ⟨text, broken⟩
            obtain ⟨text', named⟩ := Access.eq_contract_of_violation? broken
            cases named
            exact ⟨access, rfl, rfl, (breaks_iff answer).2 (by simp [broken])⟩
          · rintro ⟨access, ⟨⟩, rfl, breaks⟩
            obtain ⟨e, broken⟩ := Option.ne_none_iff_exists'.1 ((breaks_iff answer).1 breaks)
            obtain ⟨text, rfl⟩ := Access.eq_contract_of_violation? broken
            exact ⟨text, broken⟩
      | error cause =>
          simp only [fault?, answer]
          constructor
          · rintro ⟨text, other⟩
            cases other
          · rintro ⟨access, ⟨⟩, -, t, inside, -⟩
            simp [returned, answer] at inside
  | contains t =>
      constructor
      · rintro ⟨text, other⟩
        simp only [fault?] at other
        split at other <;> cases other
      · rintro ⟨access, other, -⟩
        cases other

/-- There is no other fault. -/
theorem kind_of_fault? {e : EvaluationError} (fault : d.fault? call = some e) :
    (∃ cause, e = .dataset cause) ∨ ∃ path text, e = .contract path text := by
  cases call with
  | scan access =>
      simp only [fault?] at fault
      split at fault
      · exact Or.inr ⟨access.path, Access.eq_contract_of_violation? fault⟩
      · exact Or.inl ⟨_, (Option.some.inj fault).symm⟩
  | contains t =>
      simp only [fault?] at fault
      split at fault
      · cases fault
      · exact Or.inl ⟨_, (Option.some.inj fault).symm⟩

/-- A call is served if it has no fault. -/
theorem fault?_eq_none_iff : d.fault? call = none ↔ d.Serves call := by
  constructor
  · intro whole
    refine ⟨?_, ?_⟩
    · intro cause failed
      have fault := fault?_eq_dataset_iff.2 failed
      cases whole.symm.trans fault
    · intro access same breaks
      obtain ⟨text, fault⟩ := fault?_contract_iff.2 ⟨access, same, rfl, breaks⟩
      cases whole.symm.trans fault
  · intro serves
    rw [Option.eq_none_iff_forall_ne_some]
    intro e fault
    rcases kind_of_fault? fault with ⟨cause, rfl⟩ | ⟨path, text, rfl⟩
    · exact serves.answers cause (fault?_eq_dataset_iff.1 fault)
    · obtain ⟨access, same, -, breaks⟩ := fault?_contract_iff.1 ⟨text, fault⟩
      exact serves.keeps access same breaks

end Dataset

/-! ## Calls in order -/

namespace Evaluation

variable {α β : Type} {d : Dataset} {a m : α} {b : β} {clock : Clock} {e : EvaluationError}
  {plan rest before later : List Call} {call : Call}

/-- The run that makes some calls and ends with a value, or after the first call that is not
served with its fault. -/
def Transcript.through (d : Dataset) (a : α) (clock : Clock) : List Call → Transcript α
  | [] => ⟨.ok a, clock, []⟩
  | call :: rest =>
      match d.fault? call with
      | some e => ⟨.error e, clock, [call]⟩
      | none => (through d a clock rest).after call

namespace Transcript

theorem through_andThen {next : α → Clock → Transcript β}
    (goesOn : ∀ clock, next a clock = through d b clock rest) :
    (through d a clock plan).andThen next = through d b clock (plan ++ rest) := by
  induction plan with
  | nil =>
      simp only [through, andThen, goesOn]
      rfl
  | cons call others ih =>
      rw [List.cons_append, through, through]
      cases d.fault? call with
      | some e => rfl
      | none => exact (andThen_after _ call next).trans (congrArg (after call) ih)

theorem through_of_serves (all : ∀ call ∈ plan, d.Serves call) :
    through d a clock plan = ⟨.ok a, clock, plan⟩ := by
  induction plan with
  | nil => rfl
  | cons call others ih =>
      have here := Dataset.fault?_eq_none_iff.2 (all call List.mem_cons_self)
      rw [through, here, ih fun call member => all call (List.mem_cons_of_mem _ member)]
      rfl

/-- The first call that is not served is the last one made. -/
theorem through_of_fault (served : ∀ call ∈ before, d.Serves call)
    (fault : d.fault? call = some e) :
    through d a clock (before ++ call :: later) = ⟨.error e, clock, before ++ [call]⟩ := by
  induction before with
  | nil => simp only [List.nil_append, through, fault]
  | cons first others ih =>
      have here := Dataset.fault?_eq_none_iff.2 (served first List.mem_cons_self)
      rw [List.cons_append, through, here,
        ih fun call member => served call (List.mem_cons_of_mem _ member)]
      rfl

/-- All calls are served, or there is a first one that is not. -/
theorem serves_or_fault (d : Dataset) (plan : List Call) :
    (∀ call ∈ plan, d.Serves call) ∨
      ∃ before call later e, plan = before ++ call :: later ∧
        (∀ earlier ∈ before, d.Serves earlier) ∧ d.fault? call = some e := by
  cases found : plan.findSome? d.fault? with
  | none =>
      left
      intro call member
      exact Dataset.fault?_eq_none_iff.1 (List.findSome?_eq_none_iff.1 found call member)
  | some e =>
      obtain ⟨before, call, later, split, fault, served⟩ := List.findSome?_eq_some_iff.1 found
      refine Or.inr ⟨before, call, later, e, split, ?_, fault⟩
      intro earlier member
      exact Dataset.fault?_eq_none_iff.1 (served earlier member)

theorem result_through_eq_ok_iff :
    (through d a clock plan).result = .ok m ↔ m = a ∧ ∀ call ∈ plan, d.Serves call := by
  constructor
  · intro ended
    rcases serves_or_fault d plan with all | ⟨before, call, later, e, rfl, served, fault⟩
    · rw [through_of_serves all] at ended
      exact ⟨(Except.ok.inj ended).symm, all⟩
    · rw [through_of_fault served fault] at ended
      cases ended
  · rintro ⟨rfl, all⟩
    rw [through_of_serves all]

theorem result_through_eq_error_iff :
    (through d a clock plan).result = .error e ↔
      ∃ before call later, plan = before ++ call :: later ∧
        (∀ earlier ∈ before, d.Serves earlier) ∧ d.fault? call = some e ∧
        (through d a clock plan).calls = before ++ [call] := by
  constructor
  · intro ended
    rcases serves_or_fault d plan with all | ⟨before, call, later, e', rfl, served, fault⟩
    · rw [through_of_serves all] at ended
      cases ended
    · rw [through_of_fault served fault] at ended ⊢
      obtain rfl := Except.error.inj ended
      exact ⟨before, call, later, rfl, served, fault, rfl⟩
  · rintro ⟨before, call, later, rfl, served, fault, -⟩
    rw [through_of_fault served fault]

/-- The run ends with a broken contract where the first call that is not served is a scan
that the dataset breaks. -/
theorem result_through_contract_iff {path : IndexPath} :
    (∃ text, (through d a clock plan).result = .error (.contract path text)) ↔
      ∃ before access later, plan = before ++ .scan access :: later ∧
        (∀ earlier ∈ before, d.Serves earlier) ∧ d.Breaks access ∧ access.path = path ∧
        (through d a clock plan).calls = before ++ [.scan access] := by
  simp only [result_through_eq_error_iff]
  constructor
  · rintro ⟨text, before, call, later, split, served, fault, last⟩
    obtain ⟨access, rfl, named, breaks⟩ := Dataset.fault?_contract_iff.1 ⟨text, fault⟩
    exact ⟨before, access, later, split, served, breaks, named, last⟩
  · rintro ⟨before, access, later, split, served, breaks, named, last⟩
    obtain ⟨text, fault⟩ := Dataset.fault?_contract_iff.2 ⟨access, rfl, named, breaks⟩
    exact ⟨text, before, .scan access, later, split, served, fault, last⟩

/-- The run ends with an error of the dataset where that call is one that fails. -/
theorem result_through_dataset_iff {cause : DatasetError} :
    (through d a clock plan).result = .error (.dataset cause) ↔
      ∃ before call later, plan = before ++ call :: later ∧
        (∀ earlier ∈ before, d.Serves earlier) ∧ d.FailsAt cause call ∧
        (through d a clock plan).calls = before ++ [call] := by
  simp only [result_through_eq_error_iff, Dataset.fault?_eq_dataset_iff]

end Transcript

/-! ## Evaluations that ask in order -/

/-- Over the dataset the evaluation makes the given calls up to the first that is not served,
and has the value if all of them are, under every deadline and from every time. -/
def Asks (d : Dataset) (x : Evaluation α) (plan : List Call) (a : α) : Prop :=
  ∀ deadline clock, x.run d deadline clock = .through d a clock plan

namespace Asks

theorem pure (d : Dataset) (a : α) : Asks d (Pure.pure a : Evaluation α) [] a :=
  fun _ _ => rfl

theorem bind {x : Evaluation α} {f : α → Evaluation β} (first : Asks d x plan a)
    (next : Asks d (f a) rest b) : Asks d (x >>= f) (plan ++ rest) b := by
  intro deadline clock
  rw [run_bind, first]
  exact Transcript.through_andThen fun later => next deadline later

/-- What is made of the value in the end asks for nothing. -/
theorem map {x : Evaluation α} (asks : Asks d x plan a) (f : α → β) :
    Asks d (x >>= fun a => Pure.pure (f a)) plan (f a) := by
  have both := asks.bind (f := fun a => Pure.pure (f a)) (pure d (f a))
  rwa [List.append_nil] at both

end Asks

end Evaluation

end TripleAlgebra
