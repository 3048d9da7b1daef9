/-
# TripleAlgebra.Solution -- bindings of variables to terms

A solution binds some variables to terms.  Two solutions are compatible when every
variable that both bind has the same term in both; compatible solutions merge into
the solution that binds what either binds.  A solution is a value: it is equal to
another exactly when both bind the same variables to the same terms.
-/
import TripleAlgebra.Bindings
import TripleAlgebra.Term.Text

namespace TripleAlgebra

set_option autoImplicit false

/-- A binding of variables to terms. -/
abbrev Solution := Bindings Term

namespace Solution

instance : Hashable Solution where
  hash s := hash s.entries

/-- Every variable that both bind has the same term in both. -/
def compatible (a b : Solution) : Bool :=
  a.entries.all fun entry =>
    match b.get? entry.1 with
    | some term => term = entry.2
    | none => true

/-- Some variable is bound by both. -/
def sharesVariable (a b : Solution) : Bool :=
  a.entries.any fun entry => b.has entry.1

/-- The bindings of both, if they are compatible. -/
def merge (a b : Solution) : Option Solution :=
  if a.compatible b then some (a.union b) else none

/-- The bindings of the listed variables. -/
def project (names : List String) (s : Solution) : Solution :=
  s.restrict names.contains

/-- A solution for a reader: each variable with its term, in name order. -/
def text (s : Solution) : String :=
  "\x7b" ++
    ", ".intercalate (s.entries.map fun entry => variableText entry.1 ++ " -> " ++ entry.2.text) ++
    "\x7d"

theorem compatible_iff {a b : Solution} :
    a.compatible b = true ↔ ∀ x t u, a.get? x = some t → b.get? x = some u → t = u := by
  simp only [compatible, List.all_eq_true]
  constructor
  · intro all x t u atA atB
    have := all (x, t) (Bindings.mem_entries_iff.2 atA)
    simpa [atB, eq_comm] using this
  · intro all entry member
    have atA := Bindings.mem_entries_iff.1 member
    split
    · rename_i term atB
      simpa using (all _ _ _ atA atB).symm
    · rfl

theorem compatible_comm (a b : Solution) : a.compatible b = b.compatible a := by
  rw [Bool.eq_iff_iff, compatible_iff, compatible_iff]
  constructor <;> intro h x t u ht hu <;> exact (h x u t hu ht).symm

theorem sharesVariable_iff {a b : Solution} :
    a.sharesVariable b = true ↔ ∃ x, a.has x = true ∧ b.has x = true := by
  simp only [sharesVariable, List.any_eq_true]
  constructor
  · rintro ⟨entry, member, bound⟩
    have atA := Bindings.mem_entries_iff.1 member
    exact ⟨entry.1, by simp [Bindings.has, atA], bound⟩
  · rintro ⟨x, onLeft, onRight⟩
    obtain ⟨t, atA⟩ := Option.isSome_iff_exists.1 onLeft
    exact ⟨(x, t), Bindings.mem_entries_iff.2 atA, onRight⟩

theorem merge_eq_some_iff {a b c : Solution} :
    a.merge b = some c ↔ a.compatible b = true ∧ a.union b = c := by
  unfold merge
  split <;> simp_all

end Solution

end TripleAlgebra
