/-
# TripleAlgebra.Proofs.Failure -- what a step that may fail has come to

A sequence of steps that may fail, read backwards.  If it has ended well then so has each
of its steps; if it has failed then so has one of them, after the others before it ended
well.
-/
namespace TripleAlgebra

set_option autoImplicit false

universe u v

variable {ε : Type u} {α β : Type v} {x : Except ε α} {e : ε} {b : β}

theorem bind_eq_ok_iff {f : α → Except ε β} :
    (x >>= f) = .ok b ↔ ∃ a, x = .ok a ∧ f a = .ok b := by
  cases x with
  | ok a =>
      constructor
      · intro rest
        exact ⟨a, rfl, rest⟩
      · rintro ⟨_, ⟨⟩, rest⟩
        exact rest
  | error e =>
      constructor
      · intro rest
        cases rest
      · rintro ⟨_, ⟨⟩, _⟩

theorem bind_eq_error_iff {f : α → Except ε β} :
    (x >>= f) = .error e ↔ x = .error e ∨ ∃ a, x = .ok a ∧ f a = .error e := by
  cases x with
  | ok a =>
      constructor
      · intro rest
        exact Or.inr ⟨a, rfl, rest⟩
      · rintro (first | ⟨_, ⟨⟩, rest⟩)
        · cases first
        · exact rest
  | error e' =>
      constructor
      · intro first
        obtain rfl := Except.error.inj first
        exact Or.inl rfl
      · rintro (first | ⟨_, ⟨⟩, _⟩)
        obtain rfl := Except.error.inj first
        rfl

theorem map_eq_ok_iff {f : α → β} : x.map f = .ok b ↔ ∃ a, x = .ok a ∧ f a = b := by
  cases x <;> simp [Except.map]

theorem map_eq_error_iff {f : α → β} : x.map f = .error e ↔ x = .error e := by
  cases x <;> simp [Except.map]

end TripleAlgebra
