/-
# TripleAlgebra.Pattern -- triples with variables in them

A pattern has a slot for each position of a triple: a term that the triple must
carry, or a variable.  A variable may stand in several slots; a triple fits only if
it carries one term at all of them.  A predicate slot that holds a term holds an IRI,
because no triple has another predicate.

Which slot of a variable is its first is a matter of position alone, so it is read
off the pattern (`Pattern.role`) and not stored in it.
-/
import TripleAlgebra.IndexPath
import TripleAlgebra.Solution

namespace TripleAlgebra

set_option autoImplicit false

/-- One place of a pattern. -/
inductive Slot where
  | const (term : Term)
  | var (name : String)
deriving DecidableEq

namespace Slot

/-- The variable of the slot, if it holds one. -/
def name? : Slot → Option String
  | const _ => none
  | var name => some name

/-- The term of the slot, if it holds one. -/
def term? : Slot → Option Term
  | const term => some term
  | var _ => none

/-- The slot may stand for a predicate: it is a variable or an IRI. -/
def fitsPredicate : Slot → Bool
  | const term => term.isIri
  | var _ => true

def render (format : TermFormat) : Slot → String
  | const term => format term
  | var name => variableText name

end Slot

/-- Why three slots form no pattern. -/
inductive PatternError where
  /-- The predicate is a term but no IRI. -/
  | invalidPredicate (term : Term)
deriving DecidableEq

def PatternError.message : PatternError → String
  | invalidPredicate term => "pattern predicate must be an IRI or a variable, got " ++ term.text

/-- Three slots, the second of which may stand for a predicate. -/
structure Pattern where
  subject : Slot
  predicate : Slot
  object : Slot
  predicate_fits : predicate.fitsPredicate = true
deriving DecidableEq

/-- What a slot does: ask for a term, bind a variable at its first place, or ask for
the same term at a later place of a variable. -/
inductive Role where
  | constant (term : Term)
  | first (name : String)
  | repeated (name : String)
deriving DecidableEq

namespace Pattern

/-- The pattern of three slots. -/
def ofSlots (subject predicate object : Slot) : Except PatternError Pattern :=
  match predicate with
  | .var name => .ok ⟨subject, .var name, object, rfl⟩
  | .const term =>
      if iri : term.isIri = true then .ok ⟨subject, .const term, object, iri⟩
      else .error (.invalidPredicate term)

/-- The slot at a position. -/
def get (p : Pattern) : Position → Slot
  | .subject => p.subject
  | .predicate => p.predicate
  | .object => p.object

/-! ## Variables -/

/-- The variable of each slot that holds one, in triple order. -/
def slotNames (p : Pattern) : List String :=
  Position.all.filterMap fun q => (p.get q).name?

/-- The names of the pattern. -/
def names (p : Pattern) : NameSet :=
  NameSet.ofList p.slotNames

/-- The pattern has no variable. -/
def isGround (p : Pattern) : Bool :=
  p.slotNames.isEmpty

/-- The positions of a variable, in triple order. -/
def positions (p : Pattern) (name : String) : List Position :=
  Position.all.filter fun q => p.get q = .var name

/-- The positions of every variable of the pattern. -/
def occurrences (p : Pattern) : Bindings (List Position) :=
  Bindings.ofList (p.slotNames.map fun name => (name, p.positions name))

/-- What the slot at a position does. -/
def role (p : Pattern) (q : Position) : Role :=
  match p.get q with
  | .const term => .constant term
  | .var name => if (p.positions name).head? = some q then .first name else .repeated name

/-- The path that uses the terms of the pattern itself. -/
def indexPath (p : Pattern) : IndexPath :=
  .forBound p.subject.term?.isSome p.predicate.term?.isSome p.object.term?.isSome

/-! ## Triples that fit -/

/-- The triple carries one term at all places of each variable. -/
def isConsistent (p : Pattern) (t : Triple) : Bool :=
  Position.all.all fun q =>
    match p.get q with
    | .const _ => true
    | .var name => (p.positions name).all fun r => t.get r = t.get q

/-- The triple carries the term of every constant slot, and one term at all places of
each variable. -/
def fits (p : Pattern) (t : Triple) : Bool :=
  Position.all.all fun q =>
    match p.get q with
    | .const term => t.get q = term
    | .var name => Position.all.all fun r => p.get r ≠ .var name || t.get r = t.get q

/-- The variables of the pattern with the terms of a triple at their places. -/
def bind (p : Pattern) (t : Triple) : Solution :=
  Bindings.ofList (Position.all.filterMap fun q => (p.get q).name?.map fun name => (name, t.get q))

/-- The terms that are known at each position when some variables are given. -/
def known (p : Pattern) (given : Solution) (q : Position) : Option Term :=
  match p.get q with
  | .const term => some term
  | .var name => given.get? name

/-- The triple carries every known term and is consistent. -/
def accepts (p : Pattern) (given : Solution) (t : Triple) : Bool :=
  (Position.all.all fun q =>
    match p.known given q with
    | some term => t.get q = term
    | none => true) && p.isConsistent t

theorem mem_positions {p : Pattern} {name : String} {q : Position} :
    q ∈ p.positions name ↔ p.get q = .var name := by
  simp [positions, Position.mem_all]

/-- A triple fits when it agrees with the constants and does not tell two places of one
variable apart. -/
theorem fits_iff {p : Pattern} {t : Triple} :
    p.fits t = true ↔
      (∀ q term, p.get q = .const term → t.get q = term) ∧
        ∀ q r name, p.get q = .var name → p.get r = .var name → t.get r = t.get q := by
  simp only [fits, List.all_eq_true]
  constructor
  · intro all
    refine ⟨fun q term here => ?_, fun q r name first second => ?_⟩
    · have at_q := all q (Position.mem_all q)
      simpa [here] using at_q
    · have at_q := all q (Position.mem_all q)
      simp only [first, List.all_eq_true] at at_q
      have at_r := at_q r (Position.mem_all r)
      simpa [second] using at_r
  · rintro ⟨constants, repeats⟩ q _
    split
    · rename_i term here
      simpa using constants q term here
    · rename_i name first
      simp only [List.all_eq_true]
      intro r _
      by_cases second : p.get r = .var name
      · simpa [second] using repeats q r name first second
      · simp [second]

/-! ## Written form -/

/-- The pattern in its written form. -/
def render (format : TermFormat) (p : Pattern) : String :=
  "(triple " ++ p.subject.render format ++ " " ++ p.predicate.render format ++ " " ++
    p.object.render format ++ ")"

end Pattern

end TripleAlgebra
