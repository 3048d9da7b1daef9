/-
# TripleAlgebra.Bag.Join -- all compatible pairs of two bags

The join of two bags holds the merge of every compatible pair, the left solutions
in order and for each of them the right ones in order.  When some names are fixed
on both sides, the right side is first sorted into buckets by the terms at these
names: a compatible partner of a left solution can only be in the bucket of its own
terms.  Otherwise every pair is tried.
-/
import TripleAlgebra.Bag
import Std.Data.HashMap

namespace TripleAlgebra

set_option autoImplicit false

/-- The terms at the given names, if the solution binds them all. -/
def Solution.key (names : List String) (s : Solution) : Option (List Term) :=
  names.mapM s.get?

namespace Bag

/-- Every compatible pair, found by trying all pairs. -/
def nestedLoop (left right : List Solution) : List Solution :=
  left.flatMap fun s => right.filterMap s.merge

/-- Solutions by the terms that they bind to some names. -/
abbrev Buckets := Std.HashMap (List Term) (List Solution)

/-- Sort solutions into buckets by their terms at the given names.  A bucket keeps
the order of its solutions; a solution without a key is in none. -/
def buckets (names : List String) (solutions : List Solution) : Buckets :=
  solutions.foldr (fun s found =>
    match s.key names with
    | some key => found.insert key (s :: found.getD key [])
    | none => found) ∅

/-- Every compatible pair whose solutions agree on the given names, found through
buckets of the right side. -/
def bucketJoin (names : List String) (left right : List Solution) : List Solution :=
  let found := buckets names right
  left.flatMap fun s =>
    match s.key names with
    | some key => (found.getD key []).filterMap s.merge
    | none => []

/-- The merges of all compatible pairs.  `null` absorbs and `identity` is the unit. -/
def join : Bag → Bag → Bag
  | null, _ => null
  | _, null => null
  | identity, b => b
  | a, identity => a
  | a, b =>
      let shared := a.fixed ∩ b.fixed
      ofSolutions (a.names ∪ b.names)
        (if shared = ∅ then nestedLoop a.solutions b.solutions
         else bucketJoin shared.names a.solutions b.solutions)

@[simp] theorem null_join (b : Bag) : null.join b = null := rfl

@[simp] theorem join_null (a : Bag) : a.join null = null := by
  cases a <;> rfl

@[simp] theorem identity_join (b : Bag) : identity.join b = b := by
  cases b <;> rfl

@[simp] theorem join_identity (a : Bag) : a.join identity = a := by
  cases a <;> rfl

/-- A bucket holds the solutions with its key, in order. -/
theorem getD_buckets (names : List String) (solutions : List Solution) (key : List Term) :
    (buckets names solutions).getD key [] = solutions.filter fun s => s.key names = some key := by
  induction solutions with
  | nil => simp [buckets]
  | cons s rest ih =>
      simp only [buckets, List.foldr_cons, List.filter_cons] at ih ⊢
      cases has : s.key names with
      | none => simpa using ih
      | some k =>
          by_cases same : k = key
          · subst same
            simp [ih]
          · simp [Std.HashMap.getD_insert, same, ih]

end Bag

end TripleAlgebra
