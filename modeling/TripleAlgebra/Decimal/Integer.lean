/-
# TripleAlgebra.Decimal.Integer -- whole numbers as decimal text

Whole numbers are read from ASCII digits behind an optional sign and written as
their shortest decimal text.  Reading is confined to 64 bits: a number outside the
range is refused like a text that is no number.  Digits that are written are read back
(`digits?_toDigits`).
-/
namespace TripleAlgebra.Decimal

set_option autoImplicit false

/-! ## Ranges -/

/-- The greatest number of 64 bits without a sign. -/
def unsignedMax : Nat := 0xffffffffffffffff

/-- The number fits into 64 bits with a sign. -/
def isSigned (i : Int) : Bool :=
  -0x8000000000000000 ≤ i && i < 0x8000000000000000

theorem le_unsignedMax_iff {n : Nat} : n ≤ unsignedMax ↔ n < Nat.pow 2 64 := by
  have bound : Nat.pow 2 64 = unsignedMax + 1 := by decide
  rw [bound, Nat.lt_succ_iff]

theorem isSigned_iff {i : Int} :
    isSigned i = true ↔ -Int.pow 2 63 ≤ i ∧ i ≤ Int.pow 2 63 - 1 := by
  have bound : Int.pow 2 63 = 0x8000000000000000 := by decide
  simp only [isSigned, Bool.and_eq_true, decide_eq_true_eq, bound]
  omega

/-! ## Reading -/

/-- The number that a run of digits denotes; at least one digit is needed. -/
def digits? (text : List Char) : Option Nat :=
  if !text.isEmpty && text.all Char.isDigit then some (Nat.ofDigitChars 10 text 0) else none

/-- A number without a sign, or with a plus, of at most 64 bits. -/
def readUnsigned? (text : List Char) : Option Nat :=
  (digits? (match text with
    | '+' :: rest => rest
    | text => text)).filter (· ≤ unsignedMax)

/-- A number with an optional sign, of at most 64 bits. -/
def readSigned? (text : List Char) : Option Int :=
  ((match text with
    | '+' :: rest => (digits? rest).map Int.ofNat
    | '-' :: rest => (digits? rest).map fun n : Nat => -(n : Int)
    | text => (digits? text).map Int.ofNat)).filter isSigned

/-! ## Writing -/

/-- A whole number in decimal: a minus if it is negative, then its digits. -/
def signedText (i : Int) : String :=
  if i < 0 then "-" ++ i.natAbs.repr else i.natAbs.repr

/-! ## Reading what was written -/

theorem digits?_toDigits (n : Nat) : digits? (Nat.toDigits 10 n) = some n := by
  have digits : (Nat.toDigits 10 n).all Char.isDigit = true := by
    rw [List.all_eq_true]
    exact fun c member => Nat.isDigit_of_mem_toDigits (by decide) (by decide) member
  simp [digits?, digits, Nat.toDigits_ne_nil]

/-- Digits begin with a digit, so with no sign. -/
theorem toDigits_eq_cons (n : Nat) :
    ∃ c rest, Nat.toDigits 10 n = c :: rest ∧ c.isDigit = true := by
  cases h : Nat.toDigits 10 n with
  | nil => exact absurd h Nat.toDigits_ne_nil
  | cons c rest =>
      refine ⟨c, rest, rfl, ?_⟩
      have member : c ∈ Nat.toDigits 10 n := h ▸ List.mem_cons_self
      exact Nat.isDigit_of_mem_toDigits (by decide) (by decide) member

end TripleAlgebra.Decimal
