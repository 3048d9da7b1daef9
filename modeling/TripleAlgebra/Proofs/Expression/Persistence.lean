/-
# TripleAlgebra.Proofs.Expression.Persistence -- a value stays when more is bound

An expression that has a value for a solution may have no value for a smaller one, and an
operand without a value may get one when its variables are bound.  A conjunction can be false
in spite of such an operand, so the operand may turn from an error into either truth value
below a node that keeps its own.

What carries over is one relation between outcomes: whatever value the first has, the second
has too (`Persists`).  All operators but the logical ones have a value only from the values of
their operands (`UnaryOp.apply_eq_bind`, `BinaryOp.apply_eq_ok_iff`).  A verdict has a value
because an operand decides it, and then that operand still does, or because no operand is an
error, and then they are all as before (`Persists.verdict`).  Nothing but a test whether a
variable is bound can see that more is bound (`evaluate_persists`).
-/
import TripleAlgebra.Proofs.Expression.Logic
import TripleAlgebra.Proofs.Failure
import TripleAlgebra.Proofs.Solution.Merge

namespace TripleAlgebra

set_option autoImplicit false

universe u v

/-! ## Outcomes that keep their values -/

/-- Whatever value the first has, the second has too. -/
def Persists {ε : Type u} {α : Type v} (before after : Except ε α) : Prop :=
  ∀ a, before = .ok a → after = .ok a

namespace Persists

variable {ε : Type u} {α β : Type v} {x y : Except ε α}

theorem refl (x : Except ε α) : Persists x x := fun _ value => value

theorem bind (first : Persists x y) (f : α → Except ε β) : Persists (x >>= f) (y >>= f) := by
  intro b value
  obtain ⟨a, atX, rest⟩ := bind_eq_ok_iff.1 value
  exact bind_eq_ok_iff.2 ⟨a, first a atX, rest⟩

theorem map (first : Persists x y) (f : α → β) : Persists (f <$> x) (f <$> y) := by
  intro b value
  obtain ⟨a, atX, made⟩ := map_eq_ok_iff.1 value
  exact map_eq_ok_iff.2 ⟨a, first a atX, made⟩

/-- **A verdict keeps its value** when its operands keep theirs, although some of them may
have got a value that they had not. -/
theorem verdict {ι : Type u} {l : List ι} {f g : ι → Except ExpressionError Bool} (d : Bool)
    (each : ∀ i ∈ l, Persists (f i) (g i)) :
    Persists (verdict d (l.map f)) (verdict d (l.map g)) := by
  intro b value
  by_cases decided : .ok d ∈ l.map f
  · obtain ⟨i, inside, here⟩ := List.mem_map.1 decided
    have still : .ok d ∈ l.map g := List.mem_map.2 ⟨i, inside, each i inside d here⟩
    rw [verdict_of_mem decided] at value
    rw [verdict_of_mem still, value]
  · cases first : firstError? (l.map f) with
    | some e =>
        rw [verdict_of_firstError? decided first] at value
        cases value
    | none =>
        -- without an error every operand has a value, so none of them has changed
        have unchanged : l.map g = l.map f := by
          refine List.map_congr_left ?_
          intro i inside
          obtain ⟨c, known⟩ := firstError?_eq_none_iff.1 first _ (List.mem_map_of_mem inside)
          rw [known, each i inside c known]
        rw [unchanged, value]

end Persists

/-! ## Operators -/

variable {op : BinaryOp} {left left' right right' : Outcome} {a : Term}

/-- A unary operator fails with the error of its operand. -/
theorem UnaryOp.apply_eq_bind (op : UnaryOp) (operand : Outcome) :
    op.apply operand = operand >>= fun a => op.apply (.ok a) := by
  cases operand with
  | error e => cases op <;> rfl
  | ok a => rfl

/-- An operator that is not logical has a value only if both operands have one.  This is not so
of errors: an addition may prefer one of its own to the error of its right operand. -/
theorem BinaryOp.apply_eq_ok_iff (strict : op.decisive? = none) :
    op.apply left right = .ok a ↔
      ∃ b c, left = .ok b ∧ right = .ok c ∧ op.apply (.ok b) (.ok c) = .ok a := by
  constructor
  · intro value
    cases left with
    | error e =>
        cases op with
        | and | or => cases strict
        | equal | notEqual | less | greater | add => cases value
    | ok b =>
        cases right with
        | error e =>
            cases op with
            | and | or => cases strict
            | equal | notEqual | less | greater => cases value
            | add =>
                obtain ⟨m, -, rest⟩ := (bind_eq_ok_iff (x := b.number)).1 value
                cases rest
        | ok c => exact ⟨b, c, rfl, rfl, value⟩
  · rintro ⟨b, c, rfl, rfl, value⟩
    exact value

namespace Persists

theorem unary (op : UnaryOp) (operand : Persists left left') :
    Persists (op.apply left) (op.apply left') := by
  rw [UnaryOp.apply_eq_bind op left, UnaryOp.apply_eq_bind op left']
  exact operand.bind _

theorem binary (op : BinaryOp) (onLeft : Persists left left') (onRight : Persists right right') :
    Persists (op.apply left right) (op.apply left' right') := by
  cases logical : op.decisive? with
  | none =>
      intro a value
      obtain ⟨b, c, atLeft, atRight, combined⟩ := (BinaryOp.apply_eq_ok_iff logical).1 value
      exact (BinaryOp.apply_eq_ok_iff logical).2
        ⟨b, c, onLeft b atLeft, onRight c atRight, combined⟩
  | some d =>
      rw [BinaryOp.apply_of_decisive? logical, BinaryOp.apply_of_decisive? logical]
      refine map ?_ Term.ofBool
      -- the operands before and after, side by side
      refine verdict (l := [(left, left'), (right, right')]) (f := fun p => Outcome.truth p.1)
        (g := fun p => Outcome.truth p.2) d ?_
      simpa using ⟨onLeft.bind Term.truth, onRight.bind Term.truth⟩

end Persists

namespace Expr

variable {e : Expr} {s t : Solution}

/-! ## Expressions -/

/-- The expression asks nowhere whether a variable is bound. -/
def isBoundFree : Expr → Bool
  | bound _ => false
  | var _ => true
  | const _ => true
  | unary _ operand => operand.isBoundFree
  | binary _ left right => left.isBoundFree && right.isBoundFree

/-- **A value stays when more is bound.** -/
theorem evaluate_persists (free : e.isBoundFree = true) (part : s.PartOf t) :
    Persists (e.evaluate s) (e.evaluate t) := by
  induction e with
  | var name =>
      intro a value
      cases found : s.get? name with
      | none => simp [evaluate, found] at value
      | some term =>
          have kept := part name term found
          simp only [evaluate, found] at value
          simp only [evaluate, kept]
          exact value
  | const term => exact Persists.refl _
  | bound name => cases free
  | unary op operand ih => exact (ih free).unary op
  | binary op left right ihLeft ihRight =>
      obtain ⟨onLeft, onRight⟩ := Bool.and_eq_true_iff.1 free
      exact Persists.binary op (ihLeft onLeft) (ihRight onRight)

theorem holds_eq_true_iff : e.holds s = true ↔ (e.evaluate s).truth = .ok true := by
  unfold holds
  cases (e.evaluate s).truth with
  | error err => simp
  | ok b => simp

theorem holds_of_partOf (free : e.isBoundFree = true) (part : s.PartOf t)
    (passes : e.holds s = true) : e.holds t = true := by
  rw [holds_eq_true_iff] at passes ⊢
  exact (evaluate_persists free part).bind Term.truth true passes

/-- **Without tests for bound variables, values and filters are monotone.**  Such an expression
that has a value for a solution has the same value for every solution that binds more, and as a
filter it passes whatever a solution that it passes is merged into. -/
theorem values_monotone (free : e.isBoundFree = true) (s : Solution) :
    (∀ t a, s.PartOf t → e.evaluate s = .ok a → e.evaluate t = .ok a) ∧
    ∀ t merged, s.merge t = some merged ∨ t.merge s = some merged →
      accepts (some e) s = true → accepts (some e) merged = true := by
  constructor
  · intro t a part value
    exact evaluate_persists free part a value
  · rintro t merged (merging | merging) passes
    · exact holds_of_partOf free (Solution.partOf_of_merge merging) passes
    · exact holds_of_partOf free (Solution.partOf_of_merge_right merging) passes

/-- A guest passes for not being a literal in a certain room, before her room is known.  When it
is, the operand that asks for it turns from an error into true, and she still passes. -/
theorem values_monotone_guest :
    let guest : Solution := .ofList [("who", .iri "ann")]
    let place : Solution := .ofList [("room", .iri "e7")]
    let both : Solution := .ofList [("room", .iri "e7"), ("who", .iri "ann")]
    let here := binary .equal (var "room") (const (.iri "e7"))
    let e := unary .not (binary .and here (unary .isLiteral (var "who")))
    e.isBoundFree = true ∧ guest.merge place = some both ∧
    here.evaluate guest = .error (.unbound "room") ∧ here.evaluate both = .ok (.ofBool true) ∧
    e.evaluate guest = .ok (.ofBool true) ∧ e.evaluate both = .ok (.ofBool true) ∧
    accepts (some e) both = true := by
  intro guest place both here e
  have free : e.isBoundFree = true := by decide
  have merging : guest.merge place = some both := by decide
  have before : e.evaluate guest = .ok (.ofBool true) := rfl
  obtain ⟨values, filters⟩ := values_monotone free guest
  exact ⟨free, merging, rfl, rfl, before,
    values both _ (Solution.partOf_of_merge merging) before,
    filters place both (Or.inl merging) (by decide)⟩

/-- A test for a bound variable sees that more is bound. -/
example :
    let e := unary .not (bound "room")
    e.evaluate ∅ = .ok (.ofBool true) ∧
    e.evaluate (.ofList [("room", .iri "e7")]) = .ok (.ofBool false) :=
  ⟨rfl, rfl⟩

end Expr

end TripleAlgebra
