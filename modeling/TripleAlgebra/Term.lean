/-
# TripleAlgebra.Term -- the terms that triples are made of

A term is an IRI, a blank node or a literal.  A literal is a text with an
annotation: the IRI of its datatype, or a language tag.  A literal without either
in its written form is a string, so its annotation is the string datatype and
every term has exactly one representation: two terms are equal when they have the
same kind and the same texts.

Nothing is checked and nothing is normalised.  Any text may stand as an IRI, as
the label of a blank node or as a language tag.
-/
namespace TripleAlgebra

set_option autoImplicit false

/-! ## Datatypes -/

namespace Xsd

/-- A datatype of the XML Schema namespace. -/
def datatype (name : String) : String :=
  "http://www.w3.org/2001/XMLSchema#" ++ name

def string : String := datatype "string"
def boolean : String := datatype "boolean"
def integer : String := datatype "integer"
def int : String := datatype "int"
def long : String := datatype "long"
def short : String := datatype "short"
def decimal : String := datatype "decimal"
def double : String := datatype "double"
def float : String := datatype "float"

end Xsd

/-- The datatype of every literal with a language tag. -/
def Rdf.langString : String :=
  "http://www.w3.org/1999/02/22-rdf-syntax-ns#langString"

/-! ## Literals -/

/-- What tells literals of one text apart: a datatype or a language. -/
inductive Annotation where
  | datatype (iri : String)
  | language (tag : String)
deriving DecidableEq, Hashable

/-- A text with its annotation. -/
structure Literal where
  value : String
  annotation : Annotation
deriving DecidableEq, Hashable

namespace Literal

/-- A literal of the given datatype. -/
def typed (value datatype : String) : Literal :=
  ⟨value, .datatype datatype⟩

/-- A literal in the language with the given tag. -/
def tagged (value tag : String) : Literal :=
  ⟨value, .language tag⟩

/-- A plain string. -/
def plain (value : String) : Literal :=
  typed value Xsd.string

/-- The datatype of a literal; one with a language tag has the datatype of tagged
strings. -/
def datatype (l : Literal) : String :=
  match l.annotation with
  | .datatype iri => iri
  | .language _ => Rdf.langString

/-- The literal of a truth value. -/
def ofBool (b : Bool) : Literal :=
  typed (if b then "true" else "false") Xsd.boolean

end Literal

/-! ## Terms -/

/-- A term of a triple. -/
inductive Term where
  | iri (text : String)
  | blank (label : String)
  | literal (l : Literal)
deriving DecidableEq, Hashable

namespace Term

def isIri : Term → Bool
  | iri _ => true
  | _ => false

def isLiteral : Term → Bool
  | literal _ => true
  | _ => false

/-- The term of a truth value. -/
def ofBool (b : Bool) : Term :=
  literal (Literal.ofBool b)

theorem ofBool_inj {a b : Bool} : ofBool a = ofBool b ↔ a = b := by
  cases a <;> cases b <;> simp [ofBool, Literal.ofBool, Literal.typed]

end Term

end TripleAlgebra
