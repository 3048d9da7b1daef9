/-
# TripleAlgebra.Proofs.Expression.Comparison -- terms are compared as what they stand for

Less, equal and greater are each true for one result of a comparison (`BinaryOp.sought?`).  For two
whole numbers, or two strings, that result is the one for the numbers or strings themselves,
although equality and order find it in different ways (`ComparedAs`): equality compares numbers by
value and all other terms as terms, and the order looks for numbers first and then for strings.
So the laws of the three operators are those of a total order, numbers with many literals
included (`orderedByValue`).

A whole number and a string are different and not ordered (`same_of_isWhole_of_isText`,
`order_of_isWhole_of_isText`).
-/
import TripleAlgebra.Proofs.Expression.Literals

namespace TripleAlgebra

set_option autoImplicit false

/-! ## Comparing terms -/

/-- The terms that stand for objects of a type are compared as the objects are. -/
structure ComparedAs {α : Type} [Ord α] (Stands : Term → α → Prop) : Prop where
  order : ∀ {x y u v}, Stands x u → Stands y v → x.order y = .ok (compare u v)
  same : ∀ {x y u v}, Stands x u → Stands y v → x.same y = (compare u v == .eq)

namespace Term

variable {x y : Term} {i j : Int} {v w : String}

theorem comparedAs_isWhole : ComparedAs IsWhole := by
  constructor
  all_goals
    intro x y i j first second
    have atX := Number.ofTerm?_eq_integer_iff.2 first
    have atY := Number.ofTerm?_eq_integer_iff.2 second
  · rw [order, atX, atY]
    rfl
  · rw [same, atX, atY]
    rfl

theorem comparedAs_isText : ComparedAs IsText := by
  constructor
  · intro x y v w first second
    rw [order, first.ofTerm?, first.string?, second.string?]
    rfl
  · intro x y v w first second
    rw [same, first.ofTerm?, Bool.eq_iff_iff, beq_iff_eq, beq_iff_eq, Std.compare_eq_iff_eq]
    obtain rfl := isText_iff.1 first
    obtain rfl := isText_iff.1 second
    simp [Literal.plain, Literal.typed]

/-- A whole number and a string are not equal, whichever comes first. -/
theorem same_of_isWhole_of_isText (number : x.IsWhole i) (text : y.IsText v) :
    x.same y = false ∧ y.same x = false := by
  have atX := Number.ofTerm?_eq_integer_iff.2 number
  have different : x ≠ y := by
    rintro rfl
    cases atX.symm.trans text.ofTerm?
  constructor
  · rw [same, atX, text.ofTerm?]
    exact beq_eq_false_iff_ne.2 different
  · rw [same, text.ofTerm?]
    exact beq_eq_false_iff_ne.2 different.symm

/-- A whole number and a string cannot be ordered, whichever comes first. -/
theorem order_of_isWhole_of_isText (number : x.IsWhole i) (text : y.IsText v) :
    x.order y = .error (.typeError (.incomparable x y)) ∧
      y.order x = .error (.typeError (.incomparable y x)) := by
  have atX := Number.ofTerm?_eq_integer_iff.2 number
  constructor
  · rw [order, atX, text.ofTerm?, number.string?]
  · rw [order, text.ofTerm?, text.string?, number.string?]

end Term

/-! ## Comparison operators -/

/-- The result of a comparison for which an operator is true. -/
def BinaryOp.sought? : BinaryOp → Option Ordering
  | less => some .lt
  | equal => some .eq
  | greater => some .gt
  | _ => none

variable {α : Type} [Ord α] {Stands : Term → α → Prop} {x y : Term} {u v : α} {o : Ordering}
  {op : BinaryOp}

theorem BinaryOp.eq_equal_of_sought (sought : op.sought? = some .eq) : op = equal := by
  cases op with
  | equal => rfl
  | and | or | notEqual | less | greater | add => cases sought

theorem BinaryOp.apply_equal (x y : Term) :
    equal.apply (.ok x) (.ok y) = .ok (Term.ofBool (x.same y)) :=
  rfl

theorem BinaryOp.apply_of_sought (sought : op.sought? = some o) (ordering : o ≠ .eq)
    (x y : Term) :
    op.apply (.ok x) (.ok y) = x.order y >>= fun r => .ok (Term.ofBool (r == o)) := by
  cases op with
  | less | greater =>
      obtain rfl := Option.some.inj sought
      rfl
  | equal => exact absurd (Option.some.inj sought).symm ordering
  | and | or | notEqual | add => cases sought

/-- **A comparison of terms is one of what they stand for.** -/
theorem ComparedAs.apply (compared : ComparedAs Stands) (sought : op.sought? = some o)
    (left : Stands x u) (right : Stands y v) :
    op.apply (.ok x) (.ok y) = .ok (Term.ofBool (compare u v == o)) := by
  by_cases equality : o = .eq
  · subst equality
    obtain rfl := BinaryOp.eq_equal_of_sought sought
    rw [BinaryOp.apply_equal, compared.same left right]
  · rw [BinaryOp.apply_of_sought sought equality, compared.order left right]
    rfl

namespace Expr

variable {s : Solution} {a b : Expr}

theorem evaluate_comparison (compared : ComparedAs Stands) (sought : op.sought? = some o)
    (left : a.Yields s Stands u) (right : b.Yields s Stands v) :
    (binary op a b).evaluate s = .ok (.ofBool (compare u v == o)) := by
  obtain ⟨x, atLeft, leftStands⟩ := left
  obtain ⟨y, atRight, rightStands⟩ := right
  rw [evaluate, atLeft, atRight, compared.apply sought leftStands rightStands]

/-- Comparing the expressions by the operator yields the truth value. -/
def Compares (s : Solution) (op : BinaryOp) (a b : Expr) (truth : Bool) : Prop :=
  (binary op a b).evaluate s = .ok (.ofBool truth)

theorem compares_iff (compared : ComparedAs Stands) (sought : op.sought? = some o)
    (left : a.Yields s Stands u) (right : b.Yields s Stands v) {truth : Bool} :
    Compares s op a b truth ↔ (compare u v == o) = truth := by
  rw [Compares, evaluate_comparison compared sought left right, Except.ok.injEq, Term.ofBool_inj]

/-- The comparison operators order a class of expressions strictly and totally, by what their
values stand for. -/
structure OrderedByValue {α : Type} [LT α] (s : Solution) (Stands : Term → α → Prop) : Prop where
  /-- Exactly one of the operators is true, and none fails. -/
  trichotomy : ∀ a b u v, Yields s Stands a u → Yields s Stands b v →
    (Compares s .less a b true ∧ Compares s .equal a b false ∧ Compares s .greater a b false) ∨
    (Compares s .less a b false ∧ Compares s .equal a b true ∧ Compares s .greater a b false) ∨
    (Compares s .less a b false ∧ Compares s .equal a b false ∧ Compares s .greater a b true)
  converse : ∀ a b u v, Yields s Stands a u → Yields s Stands b v →
    (Compares s .less a b true ↔ Compares s .greater b a true)
  trans : ∀ a b c u v w, Yields s Stands a u → Yields s Stands b v → Yields s Stands c w →
    Compares s .less a b true → Compares s .less b c true → Compares s .less a c true
  /-- Equal expressions compare alike with every other, on either side. -/
  congr : ∀ a b c u v w, Yields s Stands a u → Yields s Stands b v → Yields s Stands c w →
    Compares s .equal a b true → ∀ op ∈ [BinaryOp.less, .equal, .greater],
      (binary op a c).evaluate s = (binary op b c).evaluate s ∧
      (binary op c a).evaluate s = (binary op c b).evaluate s
  equal_iff : ∀ a b u v, Yields s Stands a u → Yields s Stands b v →
    (Compares s .equal a b true ↔ u = v)
  less_iff : ∀ a b u v, Yields s Stands a u → Yields s Stands b v →
    (Compares s .less a b true ↔ u < v)

theorem sought_less : BinaryOp.less.sought? = some .lt := rfl

theorem sought_equal : BinaryOp.equal.sought? = some .eq := rfl

theorem sought_greater : BinaryOp.greater.sought? = some .gt := rfl

/-- **Terms that are compared as objects of a total order are ordered by it.** -/
theorem orderedByValue [LT α] [Std.TransOrd α] [Std.LawfulEqOrd α]
    (compared : ComparedAs Stands) (byCompare : ∀ u v : α, compare u v = .lt ↔ u < v) :
    OrderedByValue s Stands := by
  constructor
  case trichotomy =>
    intro a b u v left right
    simp only [compares_iff compared sought_less left right,
      compares_iff compared sought_equal left right,
      compares_iff compared sought_greater left right]
    cases compare u v <;> decide
  case converse =>
    intro a b u v left right
    rw [compares_iff compared sought_less left right,
      compares_iff compared sought_greater right left, beq_iff_eq, beq_iff_eq]
    exact Std.OrientedCmp.gt_iff_lt.symm
  case trans =>
    intro a b c u v w first second third
    rw [compares_iff compared sought_less first second,
      compares_iff compared sought_less second third,
      compares_iff compared sought_less first third, beq_iff_eq, beq_iff_eq, beq_iff_eq]
    exact Std.TransCmp.lt_trans
  case congr =>
    intro a b c u v w first second third same op comparison
    rw [compares_iff compared sought_equal first second, beq_iff_eq,
      Std.compare_eq_iff_eq] at same
    obtain rfl := same
    obtain ⟨o, sought⟩ : ∃ o, op.sought? = some o := by
      revert op
      decide
    rw [evaluate_comparison compared sought first third,
      evaluate_comparison compared sought second third,
      evaluate_comparison compared sought third first,
      evaluate_comparison compared sought third second]
    exact ⟨rfl, rfl⟩
  case equal_iff =>
    intro a b u v left right
    rw [compares_iff compared sought_equal left right, beq_iff_eq, Std.compare_eq_iff_eq]
  case less_iff =>
    intro a b u v left right
    rw [compares_iff compared sought_less left right, beq_iff_eq, byCompare]

/-- **Comparison is a strict total order of whole numbers and one of strings.**  Each of the two
classes is ordered by what its terms stand for, numbers by value and strings by code points, and
equality is that of numbers or strings, whatever the literals.  Across the classes equality is
false and the order is a type error that names both terms. -/
theorem comparison_lawful (s : Solution) :
    OrderedByValue s Term.IsWhole ∧ OrderedByValue s Term.IsText ∧
    ∀ a b x y i v, a.evaluate s = .ok x → x.IsWhole i → b.evaluate s = .ok y → y.IsText v →
      (Compares s .equal a b false ∧ Compares s .equal b a false) ∧
      ∀ op ∈ [BinaryOp.less, .greater],
        (binary op a b).evaluate s = .error (.typeError (.incomparable x y)) ∧
        (binary op b a).evaluate s = .error (.typeError (.incomparable y x)) := by
  refine ⟨?_, ?_, ?_⟩
  · exact orderedByValue Term.comparedAs_isWhole fun i j => Int.compare_eq_lt
  · exact orderedByValue Term.comparedAs_isText fun v w => compareOfLessAndEq_eq_lt
  · intro a b x y i v atA number atB text
    obtain ⟨sameLeft, sameRight⟩ := Term.same_of_isWhole_of_isText number text
    obtain ⟨orderLeft, orderRight⟩ := Term.order_of_isWhole_of_isText number text
    refine ⟨?_, ?_⟩
    · simp only [Compares, evaluate, atA, atB, BinaryOp.apply_equal, sameLeft, sameRight, and_self]
    · intro op ordering
      obtain ⟨o, sought, notEqual⟩ : ∃ o, op.sought? = some o ∧ o ≠ .eq := by
        revert op
        decide
      simp only [evaluate, atA, atB, BinaryOp.apply_of_sought sought notEqual, orderLeft,
        orderRight]
      exact ⟨rfl, rfl⟩

/-- One floor in two spellings is one number, nine is less than ten as a number, and a character
beyond the first plane comes after one at its end.  Ten and its text are different and not
ordered. -/
theorem comparison_lawful_floors :
    let s : Solution := .ofList [("floor", .literal (.typed "01" Xsd.int))]
    let floor := var "floor"
    let number (text : String) := const (.literal (.typed text Xsd.integer))
    let label (text : String) := const (.literal (.plain text))
    Compares s .equal floor (number "+1") true ∧ Compares s .less (number "9") (number "10") true ∧
    Compares s .less (label "\uffff") (label "😀") true ∧
    Compares s .equal (number "10") (label "10") false ∧
    (binary .less (number "10") (label "10")).evaluate s =
      .error (.typeError (.incomparable (.literal (.typed "10" Xsd.integer))
        (.literal (.plain "10")))) := by
  intro s floor number label
  have isFloor : floor.Yields s Term.IsWhole 1 := ⟨_, rfl, Number.ofTerm?_eq_integer_iff.1 rfl⟩
  have isOne : (number "+1").Yields s Term.IsWhole 1 :=
    ⟨_, rfl, Number.ofTerm?_eq_integer_iff.1 rfl⟩
  have isNine : (number "9").Yields s Term.IsWhole 9 :=
    ⟨_, rfl, Number.ofTerm?_eq_integer_iff.1 rfl⟩
  have isTen : Term.IsWhole (.literal (.typed "10" Xsd.integer)) 10 :=
    Number.ofTerm?_eq_integer_iff.1 rfl
  have isText (text : String) : Term.IsText (.literal (.plain text)) text := ⟨_, rfl, rfl, rfl⟩
  obtain ⟨numbers, texts, apart⟩ := comparison_lawful s
  obtain ⟨different, unordered⟩ :=
    apart (number "10") (label "10") _ _ _ _ rfl isTen rfl (isText "10")
  exact ⟨(numbers.equal_iff _ _ _ _ isFloor isOne).2 rfl,
    (numbers.less_iff _ _ _ _ isNine ⟨_, rfl, isTen⟩).2 (by decide),
    (texts.less_iff _ _ _ _ ⟨_, rfl, isText _⟩ ⟨_, rfl, isText _⟩).2 (by decide),
    different.1, (unordered _ List.mem_cons_self).1⟩

end Expr

end TripleAlgebra
