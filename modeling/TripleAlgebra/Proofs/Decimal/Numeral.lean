/-
# TripleAlgebra.Proofs.Decimal.Numeral -- the decimal texts of whole numbers

A numeral is a run of digits with an optional sign in front, and denotes the number that the
digits do, with its sign.  Zeros in front do not matter, so a number has many numerals.  What is
read are exactly the numerals of numbers of 64 bits (`readSigned?_eq_some_iff`), and where a number
cannot be negative those without a minus (`readUnsigned?_eq_some_iff`).

One numeral of each number is canonical: it has no plus, no zero in front of other digits, and
no minus in front of zero.  That one is written (`canonical_signedText`).
-/
import TripleAlgebra.Decimal.Integer

namespace TripleAlgebra.Decimal

set_option autoImplicit false

/-! ## Numerals -/

/-- A run of at least one digit. -/
def IsDigits (text : List Char) : Prop :=
  text ≠ [] ∧ ∀ c ∈ text, c.isDigit = true

/-- The number that a run of digits denotes. -/
def digitsValue (text : List Char) : Nat :=
  Nat.ofDigitChars 10 text 0

/-- The text is a numeral of the number. -/
inductive Numeral : List Char → Int → Prop where
  | bare {digits : List Char} (run : IsDigits digits) : Numeral digits (digitsValue digits)
  | plus {digits : List Char} (run : IsDigits digits) :
      Numeral ('+' :: digits) (digitsValue digits)
  | minus {digits : List Char} (run : IsDigits digits) :
      Numeral ('-' :: digits) (-(digitsValue digits : Int))

/-- The text is a numeral of the number, and has no minus. -/
inductive UnsignedNumeral : List Char → Nat → Prop where
  | bare {digits : List Char} (run : IsDigits digits) :
      UnsignedNumeral digits (digitsValue digits)
  | plus {digits : List Char} (run : IsDigits digits) :
      UnsignedNumeral ('+' :: digits) (digitsValue digits)

variable {text : List Char} {i : Int} {n : Nat}

theorem IsDigits.isDigit_head {c : Char} {rest : List Char} (run : IsDigits (c :: rest)) :
    c.isDigit = true :=
  run.2 c List.mem_cons_self

theorem digits?_eq_some_iff : digits? text = some n ↔ IsDigits text ∧ digitsValue text = n := by
  simp [digits?, IsDigits, digitsValue, and_assoc]

theorem map_digits?_eq_some_iff {f : Nat → Int} :
    (digits? text).map f = some i ↔ IsDigits text ∧ f (digitsValue text) = i := by
  simp [digits?, IsDigits, digitsValue, and_assoc]

/-! ## Reading -/

/-- **What is read are the numerals of numbers of 64 bits.** -/
theorem readSigned?_eq_some_iff :
    readSigned? text = some i ↔ Numeral text i ∧ isSigned i = true := by
  unfold readSigned?
  rw [Option.filter_eq_some_iff]
  refine and_congr_left ?_
  intro _
  -- a sign is no digit, so each way to begin leaves one kind of numeral
  split
  · rw [map_digits?_eq_some_iff]
    constructor
    · rintro ⟨run, rfl⟩
      exact .plus run
    · intro numeral
      cases numeral with
      | bare run => exact absurd run.isDigit_head (by decide)
      | plus run => exact ⟨run, rfl⟩
  · rw [map_digits?_eq_some_iff]
    constructor
    · rintro ⟨run, rfl⟩
      exact .minus run
    · intro numeral
      cases numeral with
      | bare run => exact absurd run.isDigit_head (by decide)
      | minus run => exact ⟨run, rfl⟩
  · rename_i notPlus notMinus
    rw [map_digits?_eq_some_iff]
    constructor
    · rintro ⟨run, rfl⟩
      exact .bare run
    · intro numeral
      cases numeral with
      | bare run => exact ⟨run, rfl⟩
      | plus run => exact absurd rfl (notPlus _)
      | minus run => exact absurd rfl (notMinus _)

/-- **Without a sign, what is read are the numerals of numbers of 64 bits that have no minus.** -/
theorem readUnsigned?_eq_some_iff :
    readUnsigned? text = some n ↔ UnsignedNumeral text n ∧ n ≤ unsignedMax := by
  unfold readUnsigned?
  rw [Option.filter_eq_some_iff, decide_eq_true_eq, digits?_eq_some_iff]
  refine and_congr_left ?_
  intro _
  split
  · constructor
    · rintro ⟨run, rfl⟩
      exact .plus run
    · intro numeral
      cases numeral with
      | bare run => exact absurd run.isDigit_head (by decide)
      | plus run => exact ⟨run, rfl⟩
  · rename_i notPlus
    constructor
    · rintro ⟨run, rfl⟩
      exact .bare run
    · intro numeral
      cases numeral with
      | bare run => exact ⟨run, rfl⟩
      | plus run => exact absurd rfl (notPlus _)

/-! ## Writing -/

theorem isDigits_toDigits (n : Nat) : IsDigits (Nat.toDigits 10 n) :=
  ⟨Nat.toDigits_ne_nil,
    fun _ inside => Nat.isDigit_of_mem_toDigits (by decide) (by decide) inside⟩

theorem digitsValue_toDigits (n : Nat) : digitsValue (Nat.toDigits 10 n) = n :=
  Nat.ofDigitChars_ten_toDigits

theorem toList_signedText (i : Int) : (signedText i).toList =
    if i < 0 then '-' :: Nat.toDigits 10 i.natAbs else Nat.toDigits 10 i.natAbs := by
  unfold signedText
  split <;> simp [Nat.toList_repr]

theorem numeral_signedText (i : Int) : Numeral (signedText i).toList i := by
  have run := isDigits_toDigits i.natAbs
  rw [toList_signedText]
  split
  · have value : -(digitsValue (Nat.toDigits 10 i.natAbs) : Int) = i := by
      rw [digitsValue_toDigits]
      omega
    have numeral := Numeral.minus run
    rwa [value] at numeral
  · have value : (digitsValue (Nat.toDigits 10 i.natAbs) : Int) = i := by
      rw [digitsValue_toDigits]
      omega
    have numeral := Numeral.bare run
    rwa [value] at numeral

/-- What is written is read back. -/
theorem readSigned?_signedText (fits : isSigned i = true) :
    readSigned? (signedText i).toList = some i :=
  readSigned?_eq_some_iff.2 ⟨numeral_signedText i, fits⟩

theorem eq_zero_of_digitChar : ∀ n < 10, Nat.digitChar n = '0' → n = 0 := by
  decide

/-- Only zero is written with a zero in front. -/
theorem eq_zero_of_toDigits_eq {rest : List Char} (digits : Nat.toDigits 10 n = '0' :: rest) :
    n = 0 ∧ rest = [] := by
  induction n using Nat.strongRecOn generalizing rest with
  | ind n ih =>
      rw [Nat.toDigits_eq_if (by decide)] at digits
      split at digits
      · rename_i small
        obtain ⟨first, last⟩ := List.cons.inj digits
        exact ⟨eq_zero_of_digitChar n small first, last.symm⟩
      · -- the digits in front of the last one would be those of zero
        obtain ⟨c, front, begins, -⟩ := toDigits_eq_cons (n / 10)
        rw [begins] at digits
        obtain ⟨rfl, -⟩ := List.cons.inj digits
        obtain ⟨none, -⟩ := ih (n / 10) (by omega) begins
        omega

/-- The text is the numeral of the number that has no plus, no zero in front of other digits and no
minus in front of a zero. -/
structure Canonical (text : List Char) (i : Int) : Prop where
  denotes : Numeral text i
  noPlus : ∀ rest, text ≠ '+' :: rest
  noLeadingZero : ∀ rest, text = '0' :: rest → rest = []
  noNegativeZero : ∀ rest, text ≠ '-' :: '0' :: rest

/-- **What is written is canonical.** -/
theorem canonical_signedText (i : Int) : Canonical (signedText i).toList i := by
  obtain ⟨c, rest, digits, isDigit⟩ := toDigits_eq_cons i.natAbs
  have plus : c ≠ '+' := by rintro rfl; exact absurd isDigit (by decide)
  have minus : c ≠ '-' := by rintro rfl; exact absurd isDigit (by decide)
  have zero : c = '0' → i = 0 ∧ rest = [] := by
    rintro rfl
    obtain ⟨none, last⟩ := eq_zero_of_toDigits_eq digits
    exact ⟨Int.natAbs_eq_zero.1 none, last⟩
  by_cases negative : i < 0
  · have text : (signedText i).toList = '-' :: c :: rest := by
      rw [toList_signedText, if_pos negative, digits]
    have nonzero : c ≠ '0' := fun first => by
      have := (zero first).1
      omega
    exact ⟨numeral_signedText i, by simp [text], by simp [text], by simp [text, nonzero]⟩
  · have text : (signedText i).toList = c :: rest := by
      rw [toList_signedText, if_neg negative, digits]
    refine ⟨numeral_signedText i, by simp [text, plus], ?_, by simp [text, minus]⟩
    intro r same
    obtain ⟨first, last⟩ := List.cons.inj (text.symm.trans same)
    rw [← last]
    exact (zero first).2

end TripleAlgebra.Decimal
