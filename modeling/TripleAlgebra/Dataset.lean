/-
# TripleAlgebra.Dataset -- what an evaluation may ask of its data

A dataset answers two kinds of calls: it scans the triples that carry given terms at
one or two positions, or all triples, and it tests for one triple.  Either may fail.
Nothing else is promised: a dataset may answer a scan with triples that do not carry
the terms it was asked for.
-/
import TripleAlgebra.IndexPath

namespace TripleAlgebra

set_option autoImplicit false

/-- Why a dataset did not answer, or refused a triple. -/
inductive DatasetError where
  | unavailable (message : String)
  /-- Three terms that form no triple were offered. -/
  | invalidTriple (cause : TripleError)
deriving DecidableEq

namespace DatasetError

def message : DatasetError → String
  | unavailable message => "dataset unavailable: " ++ message
  | invalidTriple cause => "invalid triple: " ++ cause.message

/-- The messages of the errors behind this one, outermost first. -/
def sources : DatasetError → List String
  | unavailable _ => []
  | invalidTriple cause => [cause.message]

end DatasetError

/-- Triples to scan: those with the given terms, or all. -/
inductive Access where
  | bySubject (subject : Term)
  | byPredicate (predicate : Term)
  | byObject (object : Term)
  | bySubjectPredicate (subject predicate : Term)
  | bySubjectObject (subject object : Term)
  | byPredicateObject (predicate object : Term)
  | all
deriving DecidableEq

namespace Access

def path : Access → IndexPath
  | bySubject _ => .bySubject
  | byPredicate _ => .byPredicate
  | byObject _ => .byObject
  | bySubjectPredicate _ _ => .bySubjectPredicate
  | bySubjectObject _ _ => .bySubjectObject
  | byPredicateObject _ _ => .byPredicateObject
  | all => .fullScan

/-- The key: the given terms with their positions. -/
def key : Access → List (Position × Term)
  | bySubject s => [(.subject, s)]
  | byPredicate p => [(.predicate, p)]
  | byObject o => [(.object, o)]
  | bySubjectPredicate s p => [(.subject, s), (.predicate, p)]
  | bySubjectObject s o => [(.subject, s), (.object, o)]
  | byPredicateObject p o => [(.predicate, p), (.object, o)]
  | all => []

/-- The triple carries the terms of the key. -/
def admits (a : Access) (t : Triple) : Bool :=
  a.key.all fun entry => t.get entry.1 = entry.2

theorem admits_eq_true_iff {a : Access} {t : Triple} :
    a.admits t = true ↔ ∀ entry ∈ a.key, t.get entry.1 = entry.2 := by
  simp [admits]

/-- The key stands at the key positions of the path. -/
theorem map_fst_key (a : Access) : a.key.map Prod.fst = a.path.keyPositions := by
  cases a <;> rfl

end Access

/-- A call to a dataset. -/
inductive Call where
  | scan (access : Access)
  | contains (triple : Triple)
deriving DecidableEq

namespace Call

def path : Call → IndexPath
  | scan access => access.path
  | contains _ => .contains

/-- The terms that the call names, in triple order. -/
def terms : Call → List Term
  | scan access => access.key.map Prod.snd
  | contains t => [t.subject, t.predicate, t.object]

end Call

/-- A source of triples. -/
structure Dataset where
  scan : Access → Except DatasetError (List Triple)
  contains : Triple → Except DatasetError Bool

end TripleAlgebra
