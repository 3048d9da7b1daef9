/-
# TripleAlgebra.Dataset.Store -- triples in memory, with an index for every path

A store keeps its triples once, in the order in which they came.  A triple's place
in that order is its slot.  Six indexes lead from the terms at one or two positions to
the slots of the triples that carry them, and a seventh from a triple to its slot.
Inserting a triple enters its slot into all of them; a triple that is there already
changes nothing.
-/
import TripleAlgebra.Dataset
import Std.Data.HashMap

namespace TripleAlgebra

set_option autoImplicit false

/-! ## One index -/

/-- For each key the slots of its triples, in ascending order. -/
abbrev SlotIndex (κ : Type) [BEq κ] [Hashable κ] := Std.HashMap κ (Array Nat)

namespace SlotIndex

variable {κ : Type} [BEq κ] [Hashable κ]

/-- The slots under a key. -/
def slots (index : SlotIndex κ) (key : κ) : Array Nat :=
  index.getD key #[]

/-- Enter a slot under a key, behind those that are there. -/
def enter (index : SlotIndex κ) (key : κ) (slot : Nat) : SlotIndex κ :=
  index.alter key fun found => some ((found.getD #[]).push slot)

end SlotIndex

/-! ## The store -/

/-- Triples with their indexes. -/
structure Store where
  triples : Array Triple := #[]
  primary : Std.HashMap Triple Nat := ∅
  bySubject : SlotIndex Term := ∅
  byPredicate : SlotIndex Term := ∅
  byObject : SlotIndex Term := ∅
  bySubjectPredicate : SlotIndex (Term × Term) := ∅
  bySubjectObject : SlotIndex (Term × Term) := ∅
  byPredicateObject : SlotIndex (Term × Term) := ∅

namespace Store

def empty : Store := {}

/-- The number of triples. -/
def size (s : Store) : Nat := s.triples.size

/-- The store holds the triple. -/
def contains (s : Store) (t : Triple) : Bool := s.primary.contains t

/-- Put a triple behind the others, unless it is there. -/
def insert (s : Store) (t : Triple) : Store :=
  if s.contains t then s
  else
    let slot := s.triples.size
    { triples := s.triples.push t
      primary := s.primary.insert t slot
      bySubject := SlotIndex.enter s.bySubject t.subject slot
      byPredicate := SlotIndex.enter s.byPredicate t.predicate slot
      byObject := SlotIndex.enter s.byObject t.object slot
      bySubjectPredicate := SlotIndex.enter s.bySubjectPredicate (t.subject, t.predicate) slot
      bySubjectObject := SlotIndex.enter s.bySubjectObject (t.subject, t.object) slot
      byPredicateObject := SlotIndex.enter s.byPredicateObject (t.predicate, t.object) slot }

/-- Put the triple of three terms into the store and say whether it was new. -/
def insertTerms (s : Store) (subject predicate object : Term) :
    Except DatasetError (Store × Bool) :=
  match Triple.ofTerms subject predicate object with
  | .ok t => .ok (s.insert t, !s.contains t)
  | .error cause => .error (.invalidTriple cause)

/-- A store of triples, put in one by one. -/
def ofTriples (triples : List Triple) : Store :=
  triples.foldl insert empty

/-! ### Filling a store -/

/-- One attempt to put something into a store. -/
inductive Step where
  | insert (t : Triple)
  | insertTerms (subject predicate object : Term)
deriving DecidableEq

/-- Take one step.  It is answered by whether its triple was new, or by why its terms form
none; in that case the store stays as it is. -/
def take (s : Store) : Step → Except DatasetError Bool × Store
  | .insert t => (.ok (!s.contains t), s.insert t)
  | .insertTerms a b c =>
      match s.insertTerms a b c with
      | .ok (after, new) => (.ok new, after)
      | .error cause => (.error cause, s)

/-- The store after several steps, one after the other. -/
def takeAll (s : Store) (steps : List Step) : Store :=
  steps.foldl (fun s step => (s.take step).2) s

/-! ### Reading a store -/

/-- The triples in some slots. -/
def inSlots (s : Store) (slots : Array Nat) : List Triple :=
  slots.toList.filterMap fun slot => s.triples[slot]?

/-- The slots that an index holds for the key of a scan, or all. -/
def scan (s : Store) : Access → List Triple
  | .bySubject a => s.inSlots (SlotIndex.slots s.bySubject a)
  | .byPredicate a => s.inSlots (SlotIndex.slots s.byPredicate a)
  | .byObject a => s.inSlots (SlotIndex.slots s.byObject a)
  | .bySubjectPredicate a b => s.inSlots (SlotIndex.slots s.bySubjectPredicate (a, b))
  | .bySubjectObject a b => s.inSlots (SlotIndex.slots s.bySubjectObject (a, b))
  | .byPredicateObject a b => s.inSlots (SlotIndex.slots s.byPredicateObject (a, b))
  | .all => s.triples.toList

/-- The store as a dataset; it never fails. -/
def dataset (s : Store) : Dataset where
  scan access := .ok (s.scan access)
  contains t := .ok (s.contains t)

end Store

end TripleAlgebra
