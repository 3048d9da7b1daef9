/-
# TripleAlgebra.Proofs.Expression.Logic -- error-tolerant logic does not see brackets

A conjunction tolerates the error of one operand when the other is false, and reports the left
error otherwise.  Inside a larger conjunction its own error may be absorbed in turn, or lose to one
further left.  None of this depends on how the operands are bracketed: as many as there are, they
come to the value that decides if one of them has it, else to the first error, else to the other
value (`verdict`).  The verdict on a list is the verdict on what its two parts come to
(`verdict_append`), so an expression that joins its operands by one logical operator has their
verdict for its truth, whatever its shape (`truth_of_joins`).

False decides a conjunction and true a disjunction, and in nothing else do the two differ.
Negation exchanges them, errors included (`verdict_not`, `evaluate_not_binary`).
-/
import TripleAlgebra.Expression.Evaluate

namespace TripleAlgebra

set_option autoImplicit false

/-! ## Verdicts on truth values -/

/-- The first error among truth values. -/
def firstError? (values : List (Except ExpressionError Bool)) : Option ExpressionError :=
  values.findSome? fun
    | .error e => some e
    | .ok _ => none

/-- What truth values come to of which one decides: the deciding value if it is among them, else
the first error, else the other value. -/
def verdict (decisive : Bool) (values : List (Except ExpressionError Bool)) :
    Except ExpressionError Bool :=
  if values.any (·.toOption == some decisive) then .ok decisive
  else match firstError? values with
    | some e => .error e
    | none => .ok (!decisive)

variable {d : Bool} {l m : List (Except ExpressionError Bool)} {e : ExpressionError}

theorem any_decisive_iff : (l.any (·.toOption == some d)) = true ↔ .ok d ∈ l := by
  rw [List.any_eq_true]
  constructor
  · rintro ⟨v, inside, decided⟩
    cases v with
    | error e => cases decided
    | ok b =>
        obtain rfl : b = d := by simpa [Except.toOption] using decided
        exact inside
  · intro inside
    exact ⟨.ok d, inside, beq_self_eq_true _⟩

theorem verdict_of_mem (decided : .ok d ∈ l) : verdict d l = .ok d :=
  if_pos (any_decisive_iff.2 decided)

theorem verdict_of_firstError? (undecided : .ok d ∉ l) (first : firstError? l = some e) :
    verdict d l = .error e := by
  rw [verdict, if_neg (mt any_decisive_iff.1 undecided), first]

theorem verdict_of_no_error (undecided : .ok d ∉ l) (none : firstError? l = none) :
    verdict d l = .ok (!d) := by
  rw [verdict, if_neg (mt any_decisive_iff.1 undecided), none]

theorem verdict_singleton (d : Bool) (v : Except ExpressionError Bool) : verdict d [v] = v := by
  rcases v with e | b
  · rfl
  · cases b <;> cases d <;> rfl

theorem firstError?_append (l m : List (Except ExpressionError Bool)) :
    firstError? (l ++ m) = (firstError? l).or (firstError? m) :=
  List.findSome?_append

theorem firstError?_eq_none_iff : firstError? l = none ↔ ∀ v ∈ l, ∃ b, v = .ok b := by
  rw [firstError?, List.findSome?_eq_none_iff]
  refine forall₂_congr ?_
  intro v _
  cases v <;> simp

/-- **The verdict on two parts** is the verdict on their verdicts. -/
theorem verdict_append (d : Bool) (l m : List (Except ExpressionError Bool)) :
    verdict d (l ++ m) = verdict d [verdict d l, verdict d m] := by
  by_cases onLeft : .ok d ∈ l
  · rw [verdict_of_mem (List.mem_append_left m onLeft), verdict_of_mem onLeft]
    exact (verdict_of_mem List.mem_cons_self).symm
  by_cases onRight : .ok d ∈ m
  · rw [verdict_of_mem (List.mem_append_right l onRight), verdict_of_mem onRight]
    exact (verdict_of_mem (List.mem_cons_of_mem _ List.mem_cons_self)).symm
  -- nothing decides, so the errors do: the left verdict is an error when the left part has one
  have undecided : .ok d ∉ l ++ m := by simp [onLeft, onRight]
  cases first : firstError? l with
  | some e =>
      have whole : firstError? (l ++ m) = some e := by rw [firstError?_append, first]; rfl
      rw [verdict_of_firstError? undecided whole, verdict_of_firstError? onLeft first]
      cases second : firstError? m with
      | some e' => rw [verdict_of_firstError? onRight second]; rfl
      | none => rw [verdict_of_no_error onRight second]; cases d <;> rfl
  | none =>
      have whole : firstError? (l ++ m) = firstError? m := by rw [firstError?_append, first]; rfl
      rw [verdict_of_no_error onLeft first]
      cases second : firstError? m with
      | some e' =>
          rw [verdict_of_firstError? undecided (whole.trans second),
            verdict_of_firstError? onRight second]
          cases d <;> rfl
      | none =>
          rw [verdict_of_no_error undecided (whole.trans second),
            verdict_of_no_error onRight second]
          cases d <;> rfl

/-- Negation exchanges the deciding value. -/
theorem verdict_not (d : Bool) (v w : Except ExpressionError Bool) :
    verdict (!d) [not <$> v, not <$> w] = not <$> verdict d [v, w] := by
  rcases v with e | _ | _ <;> rcases w with e' | _ | _ <;> cases d <;> rfl

/-! ## Logical operators -/

/-- The operand that decides a logical operator. -/
def BinaryOp.decisive? : BinaryOp → Option Bool
  | and => some false
  | or => some true
  | _ => none

theorem conjunction_eq_verdict (v w : Except ExpressionError Bool) :
    conjunction v w = verdict false [v, w] := by
  rcases v with e | _ | _ <;> rcases w with e' | _ | _ <;> rfl

theorem disjunction_eq_verdict (v w : Except ExpressionError Bool) :
    disjunction v w = verdict true [v, w] := by
  rcases v with e | _ | _ <;> rcases w with e' | _ | _ <;> rfl

variable {op op' : BinaryOp}

theorem BinaryOp.apply_of_decisive? (logical : op.decisive? = some d) (left right : Outcome) :
    op.apply left right = Term.ofBool <$> verdict d [left.truth, right.truth] := by
  cases op with
  | and =>
      obtain rfl : false = d := Option.some.inj logical
      rw [apply, conjunction_eq_verdict]
  | or =>
      obtain rfl : true = d := Option.some.inj logical
      rw [apply, disjunction_eq_verdict]
  | _ => cases logical

theorem UnaryOp.apply_not (operand : Outcome) :
    not.apply operand = Term.ofBool <$> (Bool.not <$> operand.truth) := by
  rw [apply]
  cases operand.truth <;> rfl

theorem Term.truth_ofBool (b : Bool) : (Term.ofBool b).truth = .ok b := by
  cases b <;> rfl

/-- The truth of a truth value is itself, and an error remains. -/
theorem Outcome.truth_ofBool (v : Except ExpressionError Bool) :
    Outcome.truth (Term.ofBool <$> v) = v := by
  cases v with
  | error e => rfl
  | ok b => exact Term.truth_ofBool b

namespace Expr

variable {s : Solution}

/-! ## Any number of operands -/

/-- The expression joins the operands by one operator, in their order and in some bracketing. -/
inductive Joins (op : BinaryOp) : List Expr → Expr → Prop where
  | operand (a : Expr) : Joins op [a] a
  | node {l m : List Expr} {a b : Expr} (left : Joins op l a) (right : Joins op m b) :
      Joins op (l ++ m) (binary op a b)

/-- **The truth of joined operands** is the verdict on theirs. -/
theorem truth_of_joins (logical : op.decisive? = some d) {operands : List Expr} {a : Expr}
    (joined : Joins op operands a) :
    (a.evaluate s).truth = verdict d (operands.map fun b => (b.evaluate s).truth) := by
  induction joined with
  | operand a => exact (verdict_singleton d _).symm
  | node left right ihLeft ihRight =>
      rw [evaluate, BinaryOp.apply_of_decisive? logical, Outcome.truth_ofBool, ihLeft, ihRight,
        List.map_append, verdict_append]

/-- Two operands or more yield a truth value or an error. -/
theorem evaluate_of_joins (logical : op.decisive? = some d) {operands : List Expr} {a : Expr}
    (joined : Joins op operands a) (two : 2 ≤ operands.length) :
    a.evaluate s = Term.ofBool <$> verdict d (operands.map fun b => (b.evaluate s).truth) := by
  cases joined with
  | operand => simp at two
  | node left right =>
      rw [evaluate, BinaryOp.apply_of_decisive? logical, truth_of_joins logical left,
        truth_of_joins logical right, List.map_append, verdict_append]

/-- A negated node of one logical operator is the other one of the negated operands. -/
theorem evaluate_not_binary (logical : op.decisive? = some d) (dual : op'.decisive? = some (!d))
    (a b : Expr) :
    (unary .not (binary op a b)).evaluate s =
      (binary op' (unary .not a) (unary .not b)).evaluate s := by
  simp only [evaluate, BinaryOp.apply_of_decisive? logical, BinaryOp.apply_of_decisive? dual,
    UnaryOp.apply_not, Outcome.truth_ofBool, verdict_not]

/-- **Logic tolerates errors in whatever tree it is written.**  For every solution, two operands
or more that are joined by conjunctions alone are false if one of them is, else they fail with
the error of the first that has no truth, else they are true; likewise disjunctions, with true and
false exchanged.  And De Morgan's laws hold of values and errors alike. -/
theorem logic_tolerates_errors (s : Solution) :
    (∀ operands a, Joins .and operands a → 2 ≤ operands.length →
      a.evaluate s =
        Term.ofBool <$> verdict false (operands.map fun b => (b.evaluate s).truth)) ∧
    (∀ operands a, Joins .or operands a → 2 ≤ operands.length →
      a.evaluate s =
        Term.ofBool <$> verdict true (operands.map fun b => (b.evaluate s).truth)) ∧
    ∀ a b,
      (unary .not (binary .and a b)).evaluate s =
        (binary .or (unary .not a) (unary .not b)).evaluate s ∧
      (unary .not (binary .or a b)).evaluate s =
        (binary .and (unary .not a) (unary .not b)).evaluate s :=
  ⟨fun _ _ joined two => evaluate_of_joins rfl joined two,
    fun _ _ joined two => evaluate_of_joins rfl joined two,
    fun a b => ⟨evaluate_not_binary rfl rfl a b, evaluate_not_binary rfl rfl a b⟩⟩

/-- Somebody is known, the room is not, and a place is no condition.  Both bracketings of the
conjunction fail for want of the room; a disjunction absorbs the two errors. -/
theorem logic_tolerates_errors_absent :
    let s : Solution := .ofList [("who", .iri "ann")]
    let known := bound "who"
    let room := var "room"
    let place := const (.iri "e7")
    let fromLeft := binary .and (binary .and known room) place
    let fromRight := binary .and known (binary .and room place)
    let either := binary .or room (binary .or place known)
    Joins .and [known, room, place] fromLeft ∧ fromLeft.evaluate s = .error (.unbound "room") ∧
    Joins .and [known, room, place] fromRight ∧ fromRight.evaluate s = .error (.unbound "room") ∧
    Joins .or [room, place, known] either ∧ either.evaluate s = .ok (.ofBool true) := by
  intro s known room place fromLeft fromRight either
  have first : Joins .and ([known] ++ [room] ++ [place]) fromLeft :=
    .node (.node (.operand known) (.operand room)) (.operand place)
  have second : Joins .and ([known] ++ ([room] ++ [place])) fromRight :=
    .node (.operand known) (.node (.operand room) (.operand place))
  have third : Joins .or ([room] ++ ([place] ++ [known])) either :=
    .node (.operand room) (.node (.operand place) (.operand known))
  obtain ⟨conjunctions, disjunctions, -⟩ := logic_tolerates_errors s
  exact ⟨first, conjunctions _ _ first (by decide), second, conjunctions _ _ second (by decide),
    third, disjunctions _ _ third (by decide)⟩

end Expr

end TripleAlgebra
