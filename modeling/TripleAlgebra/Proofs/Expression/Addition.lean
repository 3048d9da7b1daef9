/-
# TripleAlgebra.Proofs.Expression.Addition -- whole numbers are added exactly

An addition writes its sum as a literal, and the addition above it reads that literal again.  What
was written is read back, up to both ends of the range of 64 bits, so nothing is lost on the way:
as long as every partial sum stays in the range, a tree of additions has the exact sum of its
summands for its value, in its canonical numeral (`evaluate_of_adds`).  How the tree is bracketed
does not show.

A sum that leaves the range is a double instead.  It does not wrap around, and it is no error
(`exists_evaluate_add_eq_double`).
-/
import Mathlib.Algebra.Ring.Int.Defs
import TripleAlgebra.Proofs.Expression.Literals

namespace TripleAlgebra

set_option autoImplicit false

/-! ## Numbers -/

namespace Number

variable {i j k : Int}

/-- A sum is a whole number when the exact sum is one of 64 bits, and then it is the exact sum. -/
theorem add_eq_integer_iff : (integer i).add (integer j) = integer k ↔
    k = i + j ∧ -Int.pow 2 63 ≤ k ∧ k ≤ Int.pow 2 63 - 1 := by
  rw [← Decimal.isSigned_iff, add]
  by_cases fits : Decimal.isSigned (i + j) = true
  · rw [if_pos fits]
    constructor
    · intro same
      obtain rfl := integer.inj same
      exact ⟨rfl, fits⟩
    · rintro ⟨rfl, -⟩
      rfl
  · rw [if_neg fits]
    constructor
    · intro same
      cases same
    · rintro ⟨rfl, inRange⟩
      exact absurd inRange fits

theorem add_of_isSigned (fits : Decimal.isSigned (i + j) = true) :
    (integer i).add (integer j) = integer (i + j) :=
  add_eq_integer_iff.2 ⟨rfl, Decimal.isSigned_iff.1 fits⟩

theorem exists_add_eq_double (outside : Decimal.isSigned (i + j) = false) :
    ∃ x, (integer i).add (integer j) = double x := by
  cases sum : (integer i).add (integer j) with
  | integer k =>
      obtain ⟨rfl, inRange⟩ := add_eq_integer_iff.1 sum
      rw [Decimal.isSigned_iff.2 inRange] at outside
      cases outside
  | double x => exact ⟨x, rfl⟩

end Number

theorem BinaryOp.apply_add {a b : Term} {m n : Number} (left : a.number = .ok m)
    (right : b.number = .ok n) :
    add.apply (.ok a) (.ok b) = .ok (.literal (m.add n).toLiteral) := by
  show (a.number >>= fun m => b.number >>= fun n => pure (Term.literal (m.add n).toLiteral)) = _
  rw [left, right]
  rfl

namespace Expr

variable {s : Solution} {a b e : Expr} {i j : Int} {summands : List Int}

/-! ## One addition -/

theorem evaluate_add (left : a.Yields s Term.IsWhole i) (right : b.Yields s Term.IsWhole j) :
    (binary .add a b).evaluate s =
      .ok (.literal ((Number.integer i).add (Number.integer j)).toLiteral) := by
  obtain ⟨t, atLeft, leftWhole⟩ := left
  obtain ⟨u, atRight, rightWhole⟩ := right
  rw [evaluate, atLeft, atRight, BinaryOp.apply_add leftWhole.number rightWhole.number]

theorem evaluate_add_of_isSigned (left : a.Yields s Term.IsWhole i)
    (right : b.Yields s Term.IsWhole j) (fits : Decimal.isSigned (i + j) = true) :
    (binary .add a b).evaluate s = .ok (.literal (Number.integer (i + j)).toLiteral) := by
  rw [evaluate_add left right, Number.add_of_isSigned fits]

/-- A sum out of range is a double. -/
theorem exists_evaluate_add_eq_double (left : a.Yields s Term.IsWhole i)
    (right : b.Yields s Term.IsWhole j) (outside : Decimal.isSigned (i + j) = false) :
    ∃ text, (binary .add a b).evaluate s = .ok (.literal (.typed text Xsd.double)) := by
  obtain ⟨x, sum⟩ := Number.exists_add_eq_double outside
  rw [evaluate_add left right, sum]
  exact ⟨_, rfl⟩

/-! ## Trees of additions -/

/-- The expression adds up the whole numbers, in their order and in some bracketing, and no partial
sum leaves the range of 64 bits. -/
inductive Adds (s : Solution) : List Int → Expr → Prop where
  | summand {e : Expr} {i : Int} (whole : e.Yields s Term.IsWhole i) : Adds s [i] e
  | node {l m : List Int} {a b : Expr} (left : Adds s l a) (right : Adds s m b)
      (fits : Decimal.isSigned (l ++ m).sum = true) : Adds s (l ++ m) (binary .add a b)

/-- **What is added up is the sum**, and can be added further. -/
theorem yields_of_adds (adds : Adds s summands e) : e.Yields s Term.IsWhole summands.sum := by
  induction adds with
  | summand whole => simpa using whole
  | node left right fits ihLeft ihRight =>
      rw [List.sum_append] at fits ⊢
      exact ⟨_, evaluate_add_of_isSigned ihLeft ihRight fits, Number.isWhole_toLiteral fits⟩

/-- Two summands or more come to the canonical literal of their sum. -/
theorem evaluate_of_adds (adds : Adds s summands e) (two : 2 ≤ summands.length) :
    e.evaluate s = .ok (.literal (Number.integer summands.sum).toLiteral) := by
  cases adds with
  | summand => simp at two
  | node left right fits =>
      rw [List.sum_append] at fits ⊢
      exact evaluate_add_of_isSigned (yields_of_adds left) (yields_of_adds right) fits

/-- **Whole numbers are added exactly and never wrap around.**  A tree of one addition or more
whose partial sums all stay in the range yields the integer literal with the canonical numeral of
the exact sum, whatever its bracketing.  An addition of two whole numbers whose sum is out of
range yields a double.  And every number in the range is read back from the literal that is
written for it. -/
theorem addition_exact (s : Solution) :
    (∀ summands e, Adds s summands e → 2 ≤ summands.length →
      e.evaluate s = .ok (.literal (.typed (Decimal.signedText summands.sum) Xsd.integer)) ∧
      Decimal.Canonical (Decimal.signedText summands.sum).toList summands.sum) ∧
    (∀ a b i j, Yields s Term.IsWhole a i → Yields s Term.IsWhole b j →
      Decimal.isSigned (i + j) = false →
      ∃ text, (binary .add a b).evaluate s = .ok (.literal (.typed text Xsd.double))) ∧
    ∀ i, Decimal.isSigned i = true →
      Number.ofTerm? (.literal (Number.integer i).toLiteral) = some (.integer i) := by
  refine ⟨?_, ?_, ?_⟩
  · intro summands e adds two
    exact ⟨evaluate_of_adds adds two, Decimal.canonical_signedText summands.sum⟩
  · intro a b i j left right outside
    exact exists_evaluate_add_eq_double left right outside
  · intro i fits
    exact Number.ofTerm?_toLiteral fits

/-- The least number of 64 bits, seven and minus seven come to the least number in two bracketings,
although seven is written with a plus and zeros and as a short number.  Seven less is a double. -/
theorem addition_exact_least :
    let s : Solution := .ofList [("floor", .literal (.typed "+007" Xsd.short))]
    let least := const (.literal (.typed "-9223372036854775808" Xsd.integer))
    let floor := var "floor"
    let down := const (.literal (.typed "-7" Xsd.int))
    let fromLeft := binary .add (binary .add least floor) down
    let fromRight := binary .add least (binary .add floor down)
    fromLeft.evaluate s = .ok (.literal (.typed "-9223372036854775808" Xsd.integer)) ∧
    fromRight.evaluate s = .ok (.literal (.typed "-9223372036854775808" Xsd.integer)) ∧
    (∃ text, (binary .add least down).evaluate s = .ok (.literal (.typed text Xsd.double))) ∧
    Number.ofTerm? (.literal (Number.integer (-0x8000000000000000)).toLiteral) =
      some (.integer (-0x8000000000000000)) := by
  intro s least floor down fromLeft fromRight
  have isLeast : least.Yields s Term.IsWhole (-0x8000000000000000) :=
    ⟨_, rfl, Number.ofTerm?_eq_integer_iff.1 rfl⟩
  have isFloor : floor.Yields s Term.IsWhole 7 := ⟨_, rfl, Number.ofTerm?_eq_integer_iff.1 rfl⟩
  have isDown : down.Yields s Term.IsWhole (-7) := ⟨_, rfl, Number.ofTerm?_eq_integer_iff.1 rfl⟩
  have left : Adds s ([-0x8000000000000000] ++ [7] ++ [-7]) fromLeft :=
    .node (.node (.summand isLeast) (.summand isFloor) (by decide)) (.summand isDown) (by decide)
  have right : Adds s ([-0x8000000000000000] ++ ([7] ++ [-7])) fromRight :=
    .node (.summand isLeast) (.node (.summand isFloor) (.summand isDown) (by decide)) (by decide)
  obtain ⟨trees, doubles, readBack⟩ := addition_exact s
  exact ⟨(trees _ _ left (by decide)).1, (trees _ _ right (by decide)).1,
    doubles _ _ _ _ isLeast isDown (by decide), readBack _ (by decide)⟩

end Expr

end TripleAlgebra
