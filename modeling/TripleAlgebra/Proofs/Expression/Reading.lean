/-
# TripleAlgebra.Proofs.Expression.Reading -- an expression reads its names and nothing else

The value of an expression is the same for two solutions that agree on the names of the
expression, whether it is a term or an error, and also where the expression asks if a
variable is bound (`evaluate_congr`).  All else that a solution binds may be forgotten before the
expression is evaluated (`value_within_names`).

A solution that binds all of these names agrees on them with every solution that it is part
of, so a condition over bound names stands through any merge (`holds_eq_of_partOf`).
-/
import TripleAlgebra.Expression.Evaluate
import TripleAlgebra.Proofs.Solution.Order

namespace TripleAlgebra.Expr

set_option autoImplicit false

variable {e : Expr} {s t : Solution}

/-- **The value of an expression depends on the names it reads.** -/
theorem evaluate_congr (agree : ∀ x ∈ e.names, s.get? x = t.get? x) :
    e.evaluate s = e.evaluate t := by
  induction e with
  | var name =>
      have here := agree name (NameSet.mem_ofList.2 List.mem_cons_self)
      simp only [evaluate, here]
  | const term => rfl
  | bound name =>
      have here := agree name (NameSet.mem_ofList.2 List.mem_cons_self)
      simp only [evaluate, Bindings.has, here]
  | unary op operand ih =>
      rw [evaluate, evaluate, ih agree]
  | binary op left right ihLeft ihRight =>
      have onLeft := ihLeft fun x member => agree x (NameSet.mem_union.2 (Or.inl member))
      have onRight := ihRight fun x member => agree x (NameSet.mem_union.2 (Or.inr member))
      rw [evaluate, evaluate, onLeft, onRight]

theorem holds_congr (agree : ∀ x ∈ e.names, s.get? x = t.get? x) : e.holds s = e.holds t := by
  unfold holds
  rw [evaluate_congr agree]

/-- Further bindings do not change a condition whose names are all bound. -/
theorem holds_eq_of_partOf (bound : ∀ x ∈ e.names, s.has x = true) (part : s.PartOf t) :
    e.holds t = e.holds s := by
  refine holds_congr ?_
  intro x member
  obtain ⟨term, found⟩ := Option.isSome_iff_exists.1 (bound x member)
  rw [found, part x term found]

/-- **An expression sees its names and nothing else.**  Two solutions that agree on them, each
name unbound in both or bound to one term, are not told apart: the expression has the same value
for both or fails for both with the same error.  So it does for a solution and its projection to
these names. -/
theorem value_within_names (e : Expr) :
    (∀ s t : Solution, (∀ x ∈ e.names, s.get? x = t.get? x) → e.evaluate s = e.evaluate t) ∧
    ∀ s : Solution, e.evaluate (s.project e.names.names) = e.evaluate s := by
  constructor
  · intro s t agree
    exact evaluate_congr agree
  · intro s
    refine evaluate_congr ?_
    intro x member
    rw [Solution.get?_project, if_pos (NameSet.mem_iff_mem_names.1 member)]

/-- Neither of two guests has a mobile number: the test for one is false, the comparison with it
fails, and this failure is what the alternative yields, whoever the guests are and whatever else is
known of them. -/
theorem value_within_names_guests :
    let e := binary .or (bound "mobile") (binary .equal (var "mobile") (const (.iri "ann")))
    let ann : Solution := .ofList [("who", .iri "ann"), ("room", .iri "e7")]
    let bob : Solution := .ofList [("who", .iri "bob")]
    (∀ x ∈ e.names, ann.get? x = bob.get? x) ∧ ann ≠ bob ∧ e.evaluate ann = e.evaluate bob ∧
    e.evaluate bob = .error (.unbound "mobile") ∧ ann.project e.names.names = ∅ := by
  intro e ann bob
  have agree : ∀ x ∈ e.names, ann.get? x = bob.get? x := by
    intro x member
    obtain rfl : x = "mobile" := by simpa [e, names] using member
    rfl
  obtain ⟨alike, -⟩ := value_within_names e
  exact ⟨agree, by decide, alike ann bob agree, rfl, by decide⟩

end TripleAlgebra.Expr
