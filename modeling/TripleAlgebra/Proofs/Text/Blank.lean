/-
# TripleAlgebra.Proofs.Text.Blank -- what is left of a text between its blanks

A text has one core: what stands between the white space at its front and that at its back, and
neither begins nor ends with white space itself.  `trim` finds it (`trim_eq_iff`).  Of a text of
white space alone the core is empty.
-/
import Mathlib.Data.List.TakeWhile
import TripleAlgebra.Text.Blank

namespace TripleAlgebra.Text

set_option autoImplicit false

variable {text core : List Char}

/-- The text does not begin with a blank. -/
def BeginsPlain (text : List Char) : Prop :=
  ∀ c ∈ text.head?, isBlank c = false

/-- The text is the core between blanks, and the core has no blank at its ends. -/
structure Trimmed (text core : List Char) : Prop where
  between : ∃ front back, text = front ++ core ++ back ∧
    (∀ c ∈ front, isBlank c = true) ∧ ∀ c ∈ back, isBlank c = true
  beginsPlain : BeginsPlain core
  endsPlain : BeginsPlain core.reverse

/-! ## The front -/

theorem trimFront_eq_self (plain : BeginsPlain text) : trimFront text = text := by
  cases text with
  | nil => rfl
  | cons c rest => exact List.dropWhile_cons_of_neg (by simp [plain c rfl])

theorem trimFront_append {front : List Char} (blank : ∀ c ∈ front, isBlank c = true)
    (rest : List Char) : trimFront (front ++ rest) = trimFront rest :=
  List.dropWhile_append_of_pos blank

theorem beginsPlain_trimFront (text : List Char) : BeginsPlain (trimFront text) := by
  intro c first
  have plain := List.head?_dropWhile_not isBlank text
  rw [trimFront] at first
  rwa [first] at plain

/-- What is taken off the front is blank. -/
theorem exists_trimFront (text : List Char) :
    ∃ front, text = front ++ trimFront text ∧ ∀ c ∈ front, isBlank c = true :=
  ⟨text.takeWhile isBlank, List.takeWhile_append_dropWhile.symm,
    fun _ member => List.mem_takeWhile_imp member⟩

/-! ## Both ends -/

/-- What is left after trimming is a core. -/
theorem trimmed_trim (text : List Char) : Trimmed text (trim text) := by
  obtain ⟨front, split, frontBlank⟩ := exists_trimFront text
  obtain ⟨back, splitBack, backBlank⟩ := exists_trimFront (trimFront text).reverse
  have rest : trimFront text = trim text ++ back.reverse := by
    rw [← List.reverse_inj, splitBack, List.reverse_append, List.reverse_reverse, trim,
      List.reverse_reverse]
  refine ⟨⟨front, back.reverse, ?_, frontBlank, ?_⟩, ?_, ?_⟩
  · rw [List.append_assoc, ← rest]
    exact split
  · intro c member
    exact backBlank c (List.mem_reverse.1 member)
  · intro c first
    refine beginsPlain_trimFront text c ?_
    rw [rest, List.head?_append, first]
    rfl
  · rw [trim, List.reverse_reverse]
    exact beginsPlain_trimFront _

/-- A core is what is left after trimming. -/
theorem Trimmed.trim_eq (trimmed : Trimmed text core) : trim text = core := by
  obtain ⟨⟨front, back, rfl, frontBlank, backBlank⟩, plain, plainBack⟩ := trimmed
  have backReversed : ∀ c ∈ back.reverse, isBlank c = true := fun c member =>
    backBlank c (List.mem_reverse.1 member)
  rw [trim, List.append_assoc, trimFront_append frontBlank]
  cases core with
  | nil =>
      -- nothing stops the first pass, which takes the blanks at the back too
      have nothing : trimFront back = [] := by
        have := trimFront_append backBlank []
        rwa [List.append_nil] at this
      rw [List.nil_append, nothing]
      rfl
  | cons c rest =>
      have whole : BeginsPlain (c :: rest ++ back) := plain
      rw [trimFront_eq_self whole, List.reverse_append, trimFront_append backReversed,
        trimFront_eq_self plainBack, List.reverse_reverse]

/-- **Trimming finds the core of a text, which is the only one.** -/
theorem trim_eq_iff : trim text = core ↔ Trimmed text core := by
  constructor
  · rintro rfl
    exact trimmed_trim text
  · exact Trimmed.trim_eq

end TripleAlgebra.Text
