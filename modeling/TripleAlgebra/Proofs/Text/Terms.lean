/-
# TripleAlgebra.Proofs.Text.Terms -- terms are recognized by their written form

The text of a literal may hold anything, the quote and the parentheses included: escaping
keeps its characters apart (`escaped_cancel`), because every escape can be read back and none
starts with a quote.  IRIs are not escaped and end at the first `>`; labels and language tags
end where a word ends.  So it is only for these that something has to be asked
(`Term.isLegible`).
-/
import Mathlib.Tactic.SplitIfs
import TripleAlgebra.Proofs.Text.Delimited

namespace TripleAlgebra

set_option autoImplicit false

open Text

/-! ## Escapes -/

namespace Text

/-- The number that a hexadecimal digit in upper case stands for. -/
def hexValue (digit : Char) : Nat :=
  if digit.isDigit then digit.toNat - 0x30 else digit.toNat - 0x37

theorem hexValue_upperHexDigit {n : Nat} (small : n < 16) : hexValue (upperHexDigit n) = n := by
  decide +revert

/-- The character that a letter behind a backslash stands for. -/
def escapedBy : Char → Char
  | 'b' => '\x08'
  | 't' => '\t'
  | 'n' => '\n'
  | 'f' => '\x0c'
  | 'r' => '\r'
  | c => c

/-- The first character of an escaped text with what follows it, unless the text ends here. -/
def readEscaped : List Char → Option (Char × List Char)
  | '\\' :: 'u' :: '0' :: '0' :: high :: low :: rest =>
      some (Char.ofNat (hexValue high * 16 + hexValue low), rest)
  | '\\' :: letter :: rest => some (escapedBy letter, rest)
  | '"' :: _ => none
  | c :: rest => some (c, rest)
  | [] => none

theorem readEscaped_of_ne {c : Char} (noEscape : c ≠ '\\') (noQuote : c ≠ '"')
    (rest : List Char) : readEscaped (c :: rest) = some (c, rest) := by
  unfold readEscaped
  split <;> simp_all

/-- An escape stands for its character. -/
theorem readEscaped_escapeChar (c : Char) (rest : List Char) :
    readEscaped (escapeChar c ++ rest) = some (c, rest) := by
  unfold escapeChar
  split_ifs with backspace tab newline feed carriage quote backslash control
  · rw [backspace]; rfl
  · rw [tab]; rfl
  · rw [newline]; rfl
  · rw [feed]; rfl
  · rw [carriage]; rfl
  · rw [quote]; rfl
  · rw [backslash]; rfl
  · -- A control character fits into the two digits behind the zeros.
    have small : c.toNat < 0x80 := by
      simp only [Bool.or_eq_true, decide_eq_true_eq] at control
      omega
    have high := hexValue_upperHexDigit (show c.toNat / 16 < 16 by omega)
    have low := hexValue_upperHexDigit (show c.toNat % 16 < 16 by omega)
    simp [readEscaped, high, low, Nat.div_add_mod']
  · exact readEscaped_of_ne backslash quote rest

/-- Escaped texts up to their closing quotes are the same only if the texts are. -/
theorem escaped_cancel {u v r s : List Char}
    (same : u.flatMap escapeChar ++ '"' :: r = v.flatMap escapeChar ++ '"' :: s) :
    u = v ∧ r = s := by
  induction u generalizing v with
  | nil =>
      cases v with
      | nil => simpa using same
      | cons d v =>
          have read := congrArg readEscaped same
          rw [List.flatMap_cons, List.append_assoc, readEscaped_escapeChar] at read
          cases read
  | cons c u ih =>
      have read := congrArg readEscaped same
      rw [List.flatMap_cons, List.append_assoc, readEscaped_escapeChar] at read
      cases v with
      | nil => cases read
      | cons d v =>
          rw [List.flatMap_cons, List.append_assoc, readEscaped_escapeChar] at read
          simp only [Option.some.injEq, Prod.mk.injEq] at read
          obtain ⟨rfl, rests⟩ := read
          obtain ⟨rfl, ends⟩ := ih rests
          exact ⟨rfl, ends⟩

/-! ## IRIs -/

/-- An IRI that ends at its closing bracket. -/
def fitsBrackets (iri : String) : Bool :=
  iri.toList.all (· != '>')

theorem bracketed_cancel {i j : String} {r s : List Char} (left : fitsBrackets i = true)
    (right : fitsBrackets j = true)
    (same : (bracketed i).toList ++ r = (bracketed j).toList ++ s) : i = j ∧ r = s := by
  have inner : i.toList ++ '>' :: r = j.toList ++ '>' :: s := by
    simpa [bracketed] using same
  obtain ⟨texts, rests⟩ := append_inj_of_all left right (by simp) (by simp) inner
  exact ⟨String.toList_inj.mp texts, (List.cons.inj rests).2⟩

end Text

/-! ## Annotations -/

namespace Annotation

/-- A language tag is a word and a datatype fits between brackets. -/
def isLegible : Annotation → Bool
  | language tag => isWord tag
  | datatype iri => fitsBrackets iri

/-- The character that an annotation begins with, if it is written at all. -/
def mark : Annotation → Option Char
  | language _ => some '@'
  | datatype iri => if iri = Xsd.string then none else some '^'

/-- The mark shows behind the closing quote, since nothing else that may follow is a plain
character. -/
theorem mark_text (a : Annotation) {rest : List Char} (stops : Stops rest) :
    (a.text.toList ++ rest).head?.filter isPlain = a.mark := by
  cases a with
  | language tag => simp [text, mark, isPlain]
  | datatype iri =>
      by_cases unwritten : iri = Xsd.string
      · simpa [text, mark, unwritten, Stops, Option.filter_eq_none_iff] using stops
      · simp [text, mark, unwritten, isPlain]

theorem mark_language_ne_mark_datatype (tag iri : String) :
    (language tag).mark ≠ (datatype iri).mark := by
  simp only [mark]
  split <;> simp

theorem recognized {a : Annotation} (readable : a.isLegible = true) :
    Recognized isLegible text a := by
  intro b r s other stopsLeft stopsRight same
  -- The two texts could only differ in kind if a mark of one were the remainder of the other.
  have marks : a.mark = b.mark := by
    rw [← mark_text a stopsLeft, same, mark_text b stopsRight]
  cases a with
  | language tag =>
      cases b with
      | language tag' =>
          have tags : tag.toList ++ r = tag'.toList ++ s := by simpa [text] using same
          obtain ⟨texts, rests⟩ := append_inj_of_all readable other stopsLeft stopsRight tags
          exact ⟨congrArg language (String.toList_inj.mp texts), rests⟩
      | datatype iri => exact absurd marks (mark_language_ne_mark_datatype tag iri)
  | datatype iri =>
      cases b with
      | language tag => exact absurd marks.symm (mark_language_ne_mark_datatype tag iri)
      | datatype iri' =>
          simp only [mark] at marks
          by_cases unwritten : iri = Xsd.string
          · have unwritten' : iri' = Xsd.string := by simpa [unwritten] using marks
            rw [unwritten, unwritten'] at same ⊢
            exact ⟨rfl, List.append_cancel_left same⟩
          · have written' : iri' ≠ Xsd.string := by
              rintro unwritten'
              simp [unwritten, unwritten'] at marks
            have brackets : (bracketed iri).toList ++ r = (bracketed iri').toList ++ s := by
              simpa [text, unwritten, written'] using same
            obtain ⟨iris, rests⟩ := bracketed_cancel readable other brackets
            exact ⟨congrArg datatype iris, rests⟩

end Annotation

/-! ## Terms, variables and slots -/

namespace Term

/-- A label and a language tag are words, an IRI fits between brackets, and the text of a
literal is free. -/
def isLegible : Term → Bool
  | iri i => fitsBrackets i
  | blank label => isWord label
  | literal l => l.annotation.isLegible

theorem recognized {t : Term} (readable : t.isLegible = true) :
    Recognized isLegible text t := by
  intro u r s other stopsLeft stopsRight same
  cases t with
  | iri i =>
      cases u with
      | iri j =>
          obtain ⟨iris, rests⟩ := bracketed_cancel readable other same
          exact ⟨congrArg iri iris, rests⟩
      | blank | literal => simp [text, bracketed, Literal.text] at same
  | blank label =>
      cases u with
      | blank label' =>
          have labels : label.toList ++ r = label'.toList ++ s := by simpa [text] using same
          obtain ⟨texts, rests⟩ := append_inj_of_all readable other stopsLeft stopsRight labels
          exact ⟨congrArg blank (String.toList_inj.mp texts), rests⟩
      | iri | literal => simp [text, bracketed, Literal.text] at same
  | literal l =>
      cases u with
      | literal m =>
          obtain ⟨value, kind⟩ := l
          obtain ⟨value', kind'⟩ := m
          have quoted : value.toList.flatMap escapeChar ++ '"' :: (kind.text.toList ++ r) =
              value'.toList.flatMap escapeChar ++ '"' :: (kind'.text.toList ++ s) := by
            simpa [text, Literal.text, toList_escape] using same
          obtain ⟨values, annotated⟩ := escaped_cancel quoted
          obtain ⟨rfl, rests⟩ := Annotation.recognized readable other stopsLeft stopsRight annotated
          rw [String.toList_inj.mp values]
          exact ⟨rfl, rests⟩
      | iri | blank => simp [text, bracketed, Literal.text] at same

/-- A term in its written form is not taken for an operator in parentheses. -/
theorem keyword_text (t : Term) (rest : List Char) : keyword (t.text.toList ++ rest) = [] := by
  cases t <;> simp [text, bracketed, Literal.text, keyword]

end Term

theorem isWord_variableText {name : String} (word : isWord name = true) :
    isWord (variableText name) = true := by
  simpa [isWord, variableText, isPlain] using word

theorem variableText_ne_close (name : String) (r s : List Char) :
    (variableText name).toList ++ r ≠ ')' :: s := by
  simp [variableText]

theorem recognized_variableText {name : String} (word : isWord name = true) :
    Recognized isWord variableText name :=
  recognized_of_word (fun _ => isWord_variableText)
    (fun _ _ same => by simpa [variableText] using same) word

theorem Term.text_ne_variableText (t : Term) (name : String) (r s : List Char) :
    t.text.toList ++ r ≠ (variableText name).toList ++ s := by
  cases t <;> simp [text, bracketed, Literal.text, variableText]

namespace Slot

def isLegible : Slot → Bool
  | const term => term.isLegible
  | var name => isWord name

theorem recognized {slot : Slot} (readable : slot.isLegible = true) :
    Recognized isLegible (render Term.text) slot := by
  intro slot' r s other stopsLeft stopsRight same
  cases slot with
  | const term =>
      cases slot' with
      | const term' =>
          obtain ⟨terms, rests⟩ := Term.recognized readable other stopsLeft stopsRight same
          exact ⟨congrArg const terms, rests⟩
      | var name' => exact absurd same (term.text_ne_variableText name' r s)
  | var name =>
      cases slot' with
      | const term' => exact absurd same.symm (term'.text_ne_variableText name s r)
      | var name' =>
          obtain ⟨names, rests⟩ := recognized_variableText readable other stopsLeft stopsRight same
          exact ⟨congrArg var names, rests⟩

end Slot

end TripleAlgebra
