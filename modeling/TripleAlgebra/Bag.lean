/-
# TripleAlgebra.Bag -- what an evaluation works on: a bag of solutions

A bag is a list of solutions in which order and repetition count, with the names
that it declares.  Two bags are set apart: `identity` holds one empty solution and
stands for success without any binding, and `null` holds none and stands for a
failure after which nothing further need be evaluated.  A regular bag without
solutions is a different value from `null`.

A declared name is *fixed* when the bag has a solution and every solution binds the
name; the other declared names are *floating*.
-/
import TripleAlgebra.Solution

namespace TripleAlgebra

set_option autoImplicit false

/-- A list of solutions with its declared names, or one of the two marked bags. -/
inductive Bag where
  /-- One solution, which binds nothing. -/
  | identity
  /-- No solution, and none to come. -/
  | null
  /-- Solutions and declared names. -/
  | regular (names : NameSet) (solutions : List Solution)
deriving DecidableEq

/-- The names that some of the solutions bind. -/
def boundNames (solutions : List Solution) : NameSet :=
  solutions.foldr (fun s names => s.keys ∪ names) ∅

@[simp] theorem mem_boundNames {x : String} {solutions : List Solution} :
    x ∈ boundNames solutions ↔ ∃ s ∈ solutions, x ∈ s.keys := by
  induction solutions with
  | nil => simp [boundNames]
  | cons s rest ih =>
      simp only [boundNames, List.foldr_cons, NameSet.mem_union, List.mem_cons, exists_eq_or_imp]
      exact or_congr_right ih

theorem boundNames_append (l m : List Solution) :
    boundNames (l ++ m) = boundNames l ∪ boundNames m := by
  refine NameSet.ext_mem ?_
  intro x
  simp only [mem_boundNames, List.mem_append, NameSet.mem_union, or_and_right, exists_or]

namespace Bag

/-- A regular bag.  The names that the solutions bind are declared as well. -/
def ofSolutions (names : NameSet) (solutions : List Solution) : Bag :=
  regular (names ∪ boundNames solutions) solutions

/-- A regular bag without solutions. -/
def empty (names : NameSet) : Bag :=
  regular names []

/-! ## What a bag holds -/

/-- The solutions in order. -/
def solutions : Bag → List Solution
  | identity => [∅]
  | null => []
  | regular _ solutions => solutions

/-- The declared names. -/
def names : Bag → NameSet
  | identity => ∅
  | null => ∅
  | regular names _ => names

/-- The number of solutions. -/
def length (b : Bag) : Nat :=
  b.solutions.length

/-- The bag holds no solution. -/
def isEmpty (b : Bag) : Bool :=
  b.solutions.isEmpty

/-- The declared names that every solution binds; none if there is no solution. -/
def fixed (b : Bag) : NameSet :=
  if b.isEmpty then ∅ else b.names.filter fun x => b.solutions.all (·.has x)

/-- The declared names that some solution does not bind. -/
def floating (b : Bag) : NameSet :=
  b.names \ b.fixed

/-! ## Operations on one bag -/

/-- The solutions that pass a test, in order.  The declared names stay. -/
def retain (keep : Solution → Bool) : Bag → Bag
  | null => null
  | identity => if keep ∅ then identity else empty ∅
  | regular names solutions => regular names (solutions.filter keep)

/-- The first occurrence of every solution. -/
def distinct : Bag → Bag
  | regular names solutions => regular names solutions.eraseDups
  | b => b

/-- Every solution cut down to the listed names. -/
def project (names : List String) : Bag → Bag
  | regular _ solutions => regular (NameSet.ofList names) (solutions.map (Solution.project names))
  | b => b

/-- The solutions after the first `offset`, and of these no more than `limit`. -/
def slice (offset : Nat) (limit : Option Nat) : Bag → Bag
  | null => null
  | identity => if offset = 0 ∧ limit ≠ some 0 then identity else empty ∅
  | regular names solutions =>
      let rest := solutions.drop offset
      regular names (match limit with
        | none => rest
        | some count => rest.take count)

/-! ## Operations on two bags that look at pairs of solutions -/

/-- The solutions of both bags, those of the first before those of the second.  A
`null` side leaves the other as it is. -/
def union : Bag → Bag → Bag
  | null, b => b
  | a, null => a
  | a, b => ofSolutions (a.names ∪ b.names) (a.solutions ++ b.solutions)

/-- The solutions of the first bag that have a compatible partner in the second, or,
if none must exist, those that have no such partner. -/
def semiJoin (a b : Bag) (mustExist : Bool) : Bag :=
  a.retain fun s => b.solutions.any s.compatible == mustExist

/-- The solutions of the first bag, without those that have a compatible partner in
the second with which they share a variable. -/
def minus (a b : Bag) : Bag :=
  a.retain fun s => !b.solutions.any fun t => s.sharesVariable t && s.compatible t

/-- For each solution of `left`, its merges with `right` that are accepted; where
there are none, the solution itself. -/
def optionalMatches (accept : Solution → Bool) (left right : List Solution) : List Solution :=
  left.flatMap fun s =>
    let merged := (right.filterMap s.merge).filter accept
    if merged.isEmpty then [s] else merged

/-- The first bag extended by the second where it can be: every solution of the
first is kept, merged with each accepted partner or else alone. -/
def leftJoin (a b : Bag) (accept : Solution → Bool) : Bag :=
  match a with
  | null => null
  | a => ofSolutions (a.names ∪ b.names) (optionalMatches accept a.solutions b.solutions)

/-! ## First facts -/

@[simp] theorem solutions_ofSolutions (v : NameSet) (l : List Solution) :
    (ofSolutions v l).solutions = l := rfl

@[simp] theorem solutions_empty (v : NameSet) : (empty v).solutions = [] := rfl

@[simp] theorem names_ofSolutions (v : NameSet) (l : List Solution) :
    (ofSolutions v l).names = v ∪ boundNames l := rfl

theorem ofSolutions_ne_null (v : NameSet) (l : List Solution) : ofSolutions v l ≠ null := nofun

theorem isEmpty_eq_true_iff {b : Bag} : b.isEmpty = true ↔ b.solutions = [] :=
  List.isEmpty_iff

theorem solutions_retain (keep : Solution → Bool) (b : Bag) :
    (b.retain keep).solutions = b.solutions.filter keep := by
  cases b with
  | identity => by_cases kept : keep ∅ = true <;> simp [retain, solutions, kept, empty]
  | null => rfl
  | regular => rfl

theorem names_retain (keep : Solution → Bool) (b : Bag) :
    (b.retain keep).names = b.names := by
  cases b with
  | identity => by_cases kept : keep ∅ = true <;> simp [retain, names, kept, empty]
  | null => rfl
  | regular => rfl

theorem solutions_distinct (b : Bag) : b.distinct.solutions = b.solutions.eraseDups := by
  cases b <;> rfl

theorem solutions_project (names : List String) (b : Bag) :
    (b.project names).solutions = b.solutions.map (Solution.project names) := by
  cases b with
  | identity => rfl
  | null => rfl
  | regular => rfl

theorem names_distinct (b : Bag) : b.distinct.names = b.names := by
  cases b <;> rfl

theorem solutions_slice (offset : Nat) (limit : Option Nat) (b : Bag) :
    (b.slice offset limit).solutions =
      match limit with
      | none => b.solutions.drop offset
      | some count => (b.solutions.drop offset).take count := by
  cases b with
  | identity =>
      cases offset with
      | zero =>
          cases limit with
          | none => rfl
          | some count => cases count <;> simp [slice, solutions, empty]
      | succ offset => cases limit <;> simp [slice, solutions, empty]
  | null => cases limit <;> simp [slice, solutions]
  | regular => rfl

theorem names_slice (offset : Nat) (limit : Option Nat) (b : Bag) :
    (b.slice offset limit).names = b.names := by
  cases b with
  | identity =>
      simp only [slice]
      split <;> rfl
  | null => rfl
  | regular => rfl

@[simp] theorem null_union (b : Bag) : null.union b = b := rfl

@[simp] theorem union_null (a : Bag) : a.union null = a := by
  cases a <;> rfl

theorem union_of_ne_null {a b : Bag} (someLeft : a ≠ null) (someRight : b ≠ null) :
    a.union b = ofSolutions (a.names ∪ b.names) (a.solutions ++ b.solutions) := by
  cases a <;> cases b <;> first | rfl | contradiction

theorem solutions_union (a b : Bag) : (a.union b).solutions = a.solutions ++ b.solutions := by
  cases a <;> cases b <;> simp [union, solutions, ofSolutions]

theorem leftJoin_of_ne_null {a : Bag} (some : a ≠ null) (b : Bag) (accept : Solution → Bool) :
    a.leftJoin b accept =
      ofSolutions (a.names ∪ b.names) (optionalMatches accept a.solutions b.solutions) := by
  cases a <;> first | rfl | contradiction

theorem solutions_leftJoin (a b : Bag) (accept : Solution → Bool) :
    (a.leftJoin b accept).solutions = optionalMatches accept a.solutions b.solutions := by
  cases a with
  | null => rfl
  | identity => rfl
  | regular => rfl

theorem solutions_semiJoin (a b : Bag) (mustExist : Bool) :
    (a.semiJoin b mustExist).solutions =
      a.solutions.filter fun s => b.solutions.any s.compatible == mustExist :=
  solutions_retain _ a

theorem solutions_minus (a b : Bag) :
    (a.minus b).solutions =
      a.solutions.filter fun s =>
        !b.solutions.any fun t => s.sharesVariable t && s.compatible t :=
  solutions_retain _ a

theorem mem_fixed {b : Bag} {x : String} :
    x ∈ b.fixed ↔ b.solutions ≠ [] ∧ x ∈ b.names ∧ ∀ s ∈ b.solutions, s.has x = true := by
  unfold fixed
  by_cases none : b.solutions = []
  · simp [none, isEmpty]
  · simp [none, isEmpty]

end Bag

end TripleAlgebra
