/-
# TripleAlgebra.Abbreviation -- short names for IRIs

A reader may register short labels for the starts of IRIs.  An IRI that starts with
a registered base, and whose remainder is a plain name, is then written as label,
colon and remainder.  Of several bases that fit, the longest is used, and of
several registrations of that base the last.  All other terms are written in full.

A base only counts when the remainder is a plain name, so a long base with an
unfit remainder does not hide a shorter one.
-/
import TripleAlgebra.Term.Text
import TripleAlgebra.Text.Alphanumeric

namespace TripleAlgebra

set_option autoImplicit false

/-- A label that stands for the start of IRIs. -/
structure Abbreviation where
  label : String
  base : String
deriving DecidableEq

namespace Abbreviation

/-- A character of a plain name. -/
def isNameChar (c : Char) : Bool :=
  Text.isAlphanumeric c || c == '_' || c == '-'

theorem isNameChar_iff {c : Char} :
    isNameChar c = true ↔ Text.isAlphanumeric c = true ∨ c = '_' ∨ c = '-' := by
  simp [isNameChar, or_assoc]

/-- A plain name: letters, digits, underscores and hyphens, at least one of them. -/
def isName (text : List Char) : Bool :=
  !text.isEmpty && text.all isNameChar

/-- The remainder of an IRI behind the base, if it is a plain name. -/
def remainder? (a : Abbreviation) (iri : String) : Option (List Char) :=
  (a.base.toList.isPrefixOf? iri.toList).filter isName

/-- The short form of an IRI under one abbreviation. -/
def shorten? (a : Abbreviation) (iri : String) : Option String :=
  (a.remainder? iri).map fun name => a.label ++ ":" ++ String.ofList name

/-- Whichever of two abbreviations has the longer base; the second if they are equal. -/
def longer (a b : Abbreviation) : Abbreviation :=
  if b.base.length < a.base.length then a else b

/-- The abbreviation to use for an IRI: the longest base that fits, and of equal ones
the last. -/
def choose? (registered : List Abbreviation) (iri : String) : Option Abbreviation :=
  (registered.filter fun a => (a.remainder? iri).isSome).foldl
    (fun best a => some (match best with
      | some b => b.longer a
      | none => a)) none

/-- Terms with their IRIs shortened where an abbreviation fits. -/
def format (registered : List Abbreviation) : TermFormat
  | .iri i => ((choose? registered i).bind fun a => a.shorten? i).getD (bracketed i)
  | t => t.text

end Abbreviation

end TripleAlgebra
