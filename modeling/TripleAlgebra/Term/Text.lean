/-
# TripleAlgebra.Term.Text -- the written form of a term

Terms are written as in N-Triples: an IRI in angle brackets, a blank node after
`_:`, a literal in quotes with its language tag or its datatype behind it.  The
string datatype is not written.  Only the text of a literal is escaped; IRIs,
labels and tags stand as they are.
-/
import TripleAlgebra.Term
import TripleAlgebra.Text.Escaped

namespace TripleAlgebra

set_option autoImplicit false

/-- A way to write terms inside a larger text. -/
abbrev TermFormat := Term → String

/-- An IRI in angle brackets. -/
def bracketed (iri : String) : String :=
  "<" ++ iri ++ ">"

/-- What follows the closing quote of a literal. -/
def Annotation.text : Annotation → String
  | .language tag => "@" ++ tag
  | .datatype iri => if iri = Xsd.string then "" else "^^" ++ bracketed iri

/-- A literal: the escaped text in quotes, then its annotation. -/
def Literal.text (l : Literal) : String :=
  "\"" ++ Text.escape l.value ++ "\"" ++ l.annotation.text

/-- The written form of a term. -/
def Term.text : TermFormat
  | .iri i => bracketed i
  | .blank label => "_:" ++ label
  | .literal l => l.text

/-- The written form of a variable: its name behind a question mark. -/
def variableText (name : String) : String :=
  "?" ++ name

end TripleAlgebra
