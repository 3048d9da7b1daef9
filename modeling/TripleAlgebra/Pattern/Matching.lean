/-
# TripleAlgebra.Pattern.Matching -- the solutions of one pattern

A pattern is matched against a dataset under an input: a bag of solutions that are
already there.  A variable of the pattern that the input fixes is narrowed: for each
distinct combination of terms that the input has for the narrowed variables, one
request is made with these terms as further known terms.  The answer holds every
triple that fits, so narrowing spares the dataset triples that no input solution could
be merged with, and nothing else.

A request uses the terms known at each position.  Of a scan's answer every triple must
carry the key of the scan; one that does not breaks the dataset's contract and ends
the evaluation.  The triples that carry all known terms, and one term at all places
of each variable, become solutions.

A pattern without variables is a test for its one triple.
-/
import TripleAlgebra.Bag
import TripleAlgebra.Evaluation
import TripleAlgebra.Pattern

namespace TripleAlgebra

set_option autoImplicit false

/-! ## Requests -/

/-- What to ask for, given the terms known at each position. -/
inductive Request where
  | scan (access : Access)
  /-- All three terms are known. -/
  | exactly (subject predicate object : Term)
deriving DecidableEq

namespace Request

/-- The request that uses the known terms.  Without indexes over two terms one of two
known terms is left out of the key. -/
def ofKnown (fullIndexing : Bool) (known : Position → Option Term) : Request :=
  match known .subject, known .predicate, known .object with
  | some s, some p, some o => exactly s p o
  | some s, some p, none => scan (if fullIndexing then .bySubjectPredicate s p else .bySubject s)
  | some s, none, some o => scan (if fullIndexing then .bySubjectObject s o else .bySubject s)
  | none, some p, some o => scan (if fullIndexing then .byPredicateObject p o else .byObject o)
  | some s, none, none => scan (.bySubject s)
  | none, some p, none => scan (.byPredicate p)
  | none, none, some o => scan (.byObject o)
  | none, none, none => scan .all

def path : Request → IndexPath
  | scan access => access.path
  | exactly _ _ _ => .contains

/-- The path of a request is the one in use for the known positions. -/
theorem path_ofKnown (fullIndexing : Bool) (known : Position → Option Term) :
    (ofKnown fullIndexing known).path =
      (IndexPath.forBound (known .subject).isSome (known .predicate).isSome
        (known .object).isSome).effective fullIndexing := by
  unfold ofKnown
  cases known .subject <;> cases known .predicate <;> cases known .object <;>
    cases fullIndexing <;> rfl

end Request

/-! ## Answers -/

/-- What was expected of a triple, and the triple. -/
def expectation (q : Position) (term : Term) (t : Triple) : String :=
  q.text ++ " " ++ term.text ++ ", got triple " ++ t.text

/-- The first term of the key that some triple lacks, as an error; the triples are
looked at in order. -/
def Access.violation? (a : Access) (triples : List Triple) : Option EvaluationError :=
  triples.findSome? fun t =>
    a.key.findSome? fun entry =>
      if t.get entry.1 = entry.2 then none
      else some (.contract a.path (expectation entry.1 entry.2 t))

/-- The triples of a request, each carrying the key that was asked for.  Three terms
that form no triple are in no dataset, so nothing is asked for them. -/
def Request.fetch : Request → Evaluation (List Triple)
  | scan access =>
      .scan access fun triples =>
        match access.violation? triples with
        | some e => .failed e
        | none => .done triples
  | exactly s p o =>
      match Triple.ofTerms s p o with
      | .ok t => .test t fun present => .done (if present then [t] else [])
      | .error _ => .done []

/-! ## Matching -/

namespace Pattern

/-- The variables of the pattern that the input fixes. -/
def narrowed (p : Pattern) (input : Bag) : NameSet :=
  p.names ∩ input.fixed

/-- The combinations of terms for the narrowed variables to ask for, in the order in
which the input first has them.  If nothing is narrowed, the one empty combination. -/
def givens (p : Pattern) (input : Bag) : List Solution :=
  let names := p.narrowed input
  if names = ∅ then [∅]
  else (input.solutions.map fun s => s.restrict fun x => x ∈ names).eraseDups

/-- The solutions of the pattern when some of its variables are given. -/
def matchGiven (fullIndexing : Bool) (p : Pattern) (given : Solution) :
    Evaluation (List Solution) := do
  let triples ← (Request.ofKnown fullIndexing (p.known given)).fetch
  return (triples.filter (p.accepts given)).map p.bind

/-- The solutions for each of several combinations, in order. -/
def matchGivens (fullIndexing : Bool) (p : Pattern) : List Solution → Evaluation (List Solution)
  | [] => return []
  | given :: rest => do
      let found ← p.matchGiven fullIndexing given
      let others ← p.matchGivens fullIndexing rest
      return found ++ others

/-- The solutions of a pattern under an input.  A pattern without variables gives
`identity` if its triple is there and `null` if not. -/
def evaluate (fullIndexing : Bool) (p : Pattern) (input : Bag) : Evaluation Bag :=
  if p.isGround then do
    let triples ← (Request.ofKnown fullIndexing (p.known ∅)).fetch
    return if triples.isEmpty then .null else .identity
  else do
    let solutions ← p.matchGivens fullIndexing (p.givens input)
    return .ofSolutions p.names solutions

end Pattern

end TripleAlgebra
