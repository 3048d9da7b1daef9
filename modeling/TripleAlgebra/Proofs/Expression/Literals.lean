/-
# TripleAlgebra.Proofs.Expression.Literals -- whole numbers and strings among the terms

Two classes of terms have values that are not their texts.  A whole number is a literal of an
integer datatype with a numeral of 64 bits; many literals stand for the same number, by zeros in
front, by a plus and by the four datatypes.  A string is a literal of the string datatype, and
stands for its text alone (`isText_iff`).

Evaluation recognizes the two by their datatypes and reads the numerals: exactly the whole
numbers are read as integers (`ofTerm?_eq_integer_iff`), and no string is read as a number
(`IsText.ofTerm?`).
-/
import TripleAlgebra.Expression.Evaluate
import TripleAlgebra.Proofs.Decimal.Numeral

namespace TripleAlgebra

set_option autoImplicit false

variable {t : Term} {i : Int} {v : String}

namespace Term

/-- The term is a literal of an integer datatype whose text is a numeral of the number, and the
number has 64 bits. -/
def IsWhole (t : Term) (i : Int) : Prop :=
  ∃ l, t = literal l ∧ l.datatype ∈ Number.integerTypes ∧ Decimal.Numeral l.value.toList i ∧
    Decimal.isSigned i = true

/-- The term is a literal of the string datatype with the text. -/
def IsText (t : Term) (v : String) : Prop :=
  ∃ l, t = literal l ∧ l.datatype = Xsd.string ∧ l.value = v

end Term

/-! ## Whole numbers -/

theorem Number.ofLiteral?_of_integerType {l : Literal} (type : l.datatype ∈ integerTypes) :
    ofLiteral? l = (Decimal.readSigned? l.value.toList).map integer :=
  if_pos type

theorem Number.ofTerm?_eq_integer_iff :
    ofTerm? t = some (.integer i) ↔ t.IsWhole i := by
  constructor
  · intro read
    cases t with
    | iri | blank => cases read
    | literal l =>
        by_cases type : l.datatype ∈ integerTypes
        · rw [ofTerm?, ofLiteral?_of_integerType type] at read
          obtain ⟨j, numeral, same⟩ := Option.map_eq_some_iff.1 read
          obtain rfl := Number.integer.inj same
          exact ⟨l, rfl, type, Decimal.readSigned?_eq_some_iff.1 numeral⟩
        · -- the other datatypes are read as doubles or not at all
          rw [ofTerm?, ofLiteral?, if_neg type] at read
          split at read
          · obtain ⟨x, -, same⟩ := Option.map_eq_some_iff.1 read
            cases same
          · cases read
  · rintro ⟨l, rfl, type, numeral⟩
    rw [ofTerm?, ofLiteral?_of_integerType type, Decimal.readSigned?_eq_some_iff.2 numeral]
    rfl

theorem Term.IsWhole.number (whole : t.IsWhole i) : t.number = .ok (.integer i) := by
  rw [Term.number, Number.ofTerm?_eq_integer_iff.2 whole]

/-- **A number of 64 bits is read back from its literal.** -/
theorem Number.ofTerm?_toLiteral (fits : Decimal.isSigned i = true) :
    ofTerm? (.literal (integer i).toLiteral) = some (.integer i) := by
  have type : (integer i).toLiteral.datatype ∈ integerTypes := mem_integerTypes.2 (Or.inl rfl)
  have written : (integer i).toLiteral.value = Decimal.signedText i := rfl
  rw [ofTerm?, ofLiteral?_of_integerType type, written, Decimal.readSigned?_signedText fits]
  rfl

theorem Number.isWhole_toLiteral (fits : Decimal.isSigned i = true) :
    Term.IsWhole (.literal (integer i).toLiteral) i :=
  ofTerm?_eq_integer_iff.1 (ofTerm?_toLiteral fits)

/-! ## Strings -/

/-- A string stands for its text only: there is one literal of it. -/
theorem Term.isText_iff : t.IsText v ↔ t = literal (.plain v) := by
  constructor
  · rintro ⟨⟨value, annotation⟩, rfl, type, rfl⟩
    cases annotation with
    | language tag =>
        have other : Rdf.langString ≠ Xsd.string := by decide
        exact absurd type other
    | datatype iri =>
        obtain rfl : iri = Xsd.string := type
        rfl
  · rintro rfl
    exact ⟨_, rfl, rfl, rfl⟩

theorem Term.IsText.string? (text : t.IsText v) : t.string? = some v := by
  obtain rfl := isText_iff.1 text
  rfl

/-- The string datatype is none of those of numbers. -/
theorem Term.IsText.ofTerm? (text : t.IsText v) : Number.ofTerm? t = none := by
  obtain ⟨l, rfl, type, -⟩ := text
  rw [Number.ofTerm?, Number.ofLiteral?, type, if_neg (by decide), if_neg (by decide)]

theorem Term.IsWhole.string? (whole : t.IsWhole i) : t.string? = none := by
  obtain ⟨l, rfl, type, -⟩ := whole
  have other : l.datatype ≠ Xsd.string := by
    intro same
    rw [same] at type
    exact absurd type (by decide)
  exact if_neg other

/-! ## Expressions -/

/-- The expression has a value for the solution, and the value stands for the object. -/
def Expr.Yields {α : Type} (s : Solution) (Stands : Term → α → Prop) (e : Expr) (u : α) : Prop :=
  ∃ t, e.evaluate s = .ok t ∧ Stands t u

end TripleAlgebra
