/-
# TripleAlgebra.IndexPath -- how a look-up reaches the triples

A look-up knows the terms at some positions of a triple.  Which positions it uses
as a key is its path: one or two of them, all three (a test for the one triple) or
none (a scan of all triples).  A dataset without indexes over two terms is asked for
one of the two: the subject if it is known, else the object.
-/
import TripleAlgebra.Triple

namespace TripleAlgebra

set_option autoImplicit false

/-- The positions whose terms a look-up uses as its key. -/
inductive IndexPath where
  | bySubject
  | byPredicate
  | byObject
  | bySubjectPredicate
  | bySubjectObject
  | byPredicateObject
  /-- All three: a test for one triple. -/
  | contains
  /-- None: all triples. -/
  | fullScan
deriving DecidableEq

namespace IndexPath

/-- The path that uses every known position. -/
def forBound : (subject predicate object : Bool) → IndexPath
  | true, true, true => contains
  | true, true, false => bySubjectPredicate
  | true, false, true => bySubjectObject
  | false, true, true => byPredicateObject
  | true, false, false => bySubject
  | false, true, false => byPredicate
  | false, false, true => byObject
  | false, false, false => fullScan

/-- The path in use: without indexes over two terms one of the two is dropped. -/
def effective (fullIndexing : Bool) (path : IndexPath) : IndexPath :=
  if fullIndexing then path
  else match path with
    | bySubjectPredicate => bySubject
    | bySubjectObject => bySubject
    | byPredicateObject => byObject
    | path => path

/-- The positions of the key. -/
def keyPositions : IndexPath → List Position
  | bySubject => [.subject]
  | byPredicate => [.predicate]
  | byObject => [.object]
  | bySubjectPredicate => [.subject, .predicate]
  | bySubjectObject => [.subject, .object]
  | byPredicateObject => [.predicate, .object]
  | contains => [.subject, .predicate, .object]
  | fullScan => []

def text : IndexPath → String
  | bySubject => "by-subject"
  | byPredicate => "by-predicate"
  | byObject => "by-object"
  | bySubjectPredicate => "by-subject-predicate"
  | bySubjectObject => "by-subject-object"
  | byPredicateObject => "by-predicate-object"
  | contains => "contains"
  | fullScan => "full-scan"

/-- All paths, from the narrow to the wide. -/
def all : List IndexPath :=
  [bySubject, byPredicate, byObject, bySubjectPredicate, bySubjectObject, byPredicateObject,
   contains, fullScan]

end IndexPath

end TripleAlgebra
