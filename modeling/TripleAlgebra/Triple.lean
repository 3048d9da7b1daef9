/-
# TripleAlgebra.Triple -- statements of three terms

A triple has a subject, a predicate and an object.  Its subject is never a
literal and its predicate is always an IRI; both are fields of the type, so
`Triple.ofTerms` is the only way in and says why it refuses three terms.
-/
import TripleAlgebra.Term.Text

namespace TripleAlgebra

set_option autoImplicit false

/-! ## Positions -/

/-- A place inside a triple. -/
inductive Position where
  | subject
  | predicate
  | object
deriving DecidableEq

namespace Position

/-- The three places, in the order in which a triple is written. -/
def all : List Position := [subject, predicate, object]

theorem mem_all (p : Position) : p ∈ all := by
  cases p <;> simp [all]

/-- The place's rank in a triple, from zero. -/
def index : Position → Nat
  | subject => 0
  | predicate => 1
  | object => 2

def text : Position → String
  | subject => "subject"
  | predicate => "predicate"
  | object => "object"

end Position

/-! ## Triples -/

/-- Why three terms form no triple. -/
inductive TripleError where
  /-- The subject is a literal. -/
  | invalidSubject (term : Term)
  /-- The predicate is not an IRI. -/
  | invalidPredicate (term : Term)
deriving DecidableEq

namespace TripleError

def message : TripleError → String
  | invalidSubject term => "invalid triple subject: " ++ term.text
  | invalidPredicate term => "invalid triple predicate: " ++ term.text ++ " (must be an IRI)"

end TripleError

/-- Three terms of which the first is no literal and the second is an IRI. -/
structure Triple where
  subject : Term
  predicate : Term
  object : Term
  subject_ne_literal : subject.isLiteral = false
  predicate_isIri : predicate.isIri = true
deriving DecidableEq

namespace Triple

instance : Hashable Triple where
  hash t := hash (t.subject, t.predicate, t.object)

/-- The triple of three terms.  The subject is looked at before the predicate. -/
def ofTerms (subject predicate object : Term) : Except TripleError Triple :=
  if s : subject.isLiteral = true then
    .error (.invalidSubject subject)
  else if p : predicate.isIri = true then
    .ok ⟨subject, predicate, object, by simpa using s, p⟩
  else
    .error (.invalidPredicate predicate)

/-- The term at a position. -/
def get (t : Triple) : Position → Term
  | .subject => t.subject
  | .predicate => t.predicate
  | .object => t.object

/-- A triple as a statement: its terms in order and a full stop. -/
def text (t : Triple) : String :=
  t.subject.text ++ " " ++ t.predicate.text ++ " " ++ t.object.text ++ " ."

/-- A triple is determined by the terms at its positions. -/
theorem ext_get {t u : Triple} (h : ∀ p, t.get p = u.get p) : t = u := by
  have s := h .subject
  have p := h .predicate
  have o := h .object
  cases t; cases u
  simp_all [get]

/-- Three terms form a triple exactly when the first is no literal and the second
is an IRI, and the triple then has these terms. -/
theorem ofTerms_eq_ok_iff {s p o : Term} {t : Triple} :
    ofTerms s p o = .ok t ↔ t.subject = s ∧ t.predicate = p ∧ t.object = o := by
  constructor
  · intro h
    unfold ofTerms at h
    split at h
    · simp at h
    · split at h
      · cases h; simp
      · simp at h
  · rintro ⟨rfl, rfl, rfl⟩
    simp [ofTerms, t.subject_ne_literal, t.predicate_isIri]

end Triple

end TripleAlgebra
