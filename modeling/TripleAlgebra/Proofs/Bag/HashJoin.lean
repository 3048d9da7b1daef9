/-
# TripleAlgebra.Proofs.Bag.HashJoin -- joining through buckets tries every pair

`Bag.join` sorts the right side into buckets when some names are fixed on both sides.
Solutions that bind the same names and are compatible have the same key at these
names (`key_eq_of_compatible`), so a bucket holds every partner of its left solution,
in order, and the buckets give what trying all pairs gives (`bucketJoin_eq`).

Whatever the two bags are, the solutions of their join are those of the nested loop
(`solutions_join`): `identity` is its unit and `null` has nothing to pair.  Nor does it matter
which of the names bound throughout make the key (`join_tries_all_pairs`); what the bags say
of their floating names plays no part.
-/
import Mathlib.Data.List.Basic
import TripleAlgebra.Bag.Join
import TripleAlgebra.Proofs.Solution.Order

namespace TripleAlgebra

set_option autoImplicit false

/-! ## Keys -/

theorem Solution.key_cons (x : String) (names : List String) (s : Solution) :
    s.key (x :: names) = (s.get? x).bind fun t => (s.key names).map (t :: ·) := by
  simp only [key, List.mapM_cons]
  cases s.get? x with
  | none => rfl
  | some t => cases names.mapM s.get? <;> rfl

/-- A solution that binds all names has a key. -/
theorem Solution.key_isSome {names : List String} {s : Solution}
    (binds : ∀ x ∈ names, s.has x = true) : ∃ key, s.key names = some key := by
  induction names with
  | nil => exact ⟨[], rfl⟩
  | cons x rest ih =>
      obtain ⟨key, found⟩ := ih fun y member => binds y (List.mem_cons_of_mem _ member)
      obtain ⟨t, bound⟩ := Option.isSome_iff_exists.1 (binds x List.mem_cons_self)
      exact ⟨t :: key, by simp [key_cons, bound, found]⟩

/-- Compatible solutions that bind the same names have the same key at them. -/
theorem Solution.key_eq_of_compatible {names : List String} {s t : Solution}
    (fits : s.compatible t = true) (left : ∀ x ∈ names, s.has x = true)
    (right : ∀ x ∈ names, t.has x = true) : s.key names = t.key names := by
  induction names with
  | nil => rfl
  | cons x rest ih =>
      obtain ⟨a, atS⟩ := Option.isSome_iff_exists.1 (left x List.mem_cons_self)
      obtain ⟨b, atT⟩ := Option.isSome_iff_exists.1 (right x List.mem_cons_self)
      have same : a = b := compatible_iff.1 fits x a b atS atT
      have tails := ih (fun y member => left y (List.mem_cons_of_mem _ member))
        fun y member => right y (List.mem_cons_of_mem _ member)
      simp [key_cons, atS, atT, same, tails]

namespace Bag

/-! ## Buckets -/

/-- Where every solution binds the names, the buckets lose no pair. -/
theorem bucketJoin_eq {names : List String} {left right : List Solution}
    (onLeft : ∀ s ∈ left, ∀ x ∈ names, s.has x = true)
    (onRight : ∀ s ∈ right, ∀ x ∈ names, s.has x = true) :
    bucketJoin names left right = nestedLoop left right := by
  unfold bucketJoin nestedLoop
  refine List.flatMap_congr ?_
  intro s member
  obtain ⟨key, found⟩ := Solution.key_isSome (onLeft s member)
  simp only [found, getD_buckets, List.filterMap_filter]
  refine List.filterMap_congr ?_
  intro t partner
  by_cases fits : s.compatible t = true
  · have same := Solution.key_eq_of_compatible fits (onLeft s member) (onRight t partner)
    simp [← same, found]
  · simp [Solution.merge, fits]

theorem mem_nestedLoop {left right : List Solution} {t : Solution} :
    t ∈ nestedLoop left right ↔ ∃ a ∈ left, ∃ b ∈ right, a.merge b = some t := by
  simp [nestedLoop, List.mem_filterMap]

theorem nestedLoop_identity (l : List Solution) : nestedLoop [∅] l = l := by
  have unit : Solution.merge ∅ = some := funext Solution.merge_empty
  simp [nestedLoop, unit]

theorem nestedLoop_identity_right (l : List Solution) : nestedLoop l [∅] = l := by
  induction l with
  | nil => rfl
  | cons s rest ih =>
      simp only [nestedLoop, List.flatMap_cons] at ih ⊢
      rw [ih]
      simp [Solution.merge_empty_right]

theorem nestedLoop_nil_right (l : List Solution) : nestedLoop l [] = [] := by
  simp [nestedLoop]

/-- **The join of two bags holds every compatible pair, in the order of the nested
loop**, whichever way the pairs are found. -/
theorem solutions_join (a b : Bag) :
    (a.join b).solutions = nestedLoop a.solutions b.solutions := by
  cases a with
  | null => rfl
  | identity => exact (congrArg solutions (identity_join b)).trans (nestedLoop_identity _).symm
  | regular names solutions =>
      cases b with
      | null => exact (nestedLoop_nil_right _).symm
      | identity => exact (nestedLoop_identity_right _).symm
      | regular names' solutions' =>
          simp only [join, solutions_ofSolutions]
          split
          · rfl
          · refine bucketJoin_eq ?_ ?_
            · intro s member x shared
              exact (mem_fixed.1 (NameSet.mem_inter.1 shared).1).2.2 s member
            · intro s member x shared
              exact (mem_fixed.1 (NameSet.mem_inter.1 shared).2).2.2 s member

/-- Of two regular bags, the nested loop and the names are the whole join. -/
theorem join_regular (v w : NameSet) (l m : List Solution) :
    (regular v l).join (regular w m) = ofSolutions (v ∪ w) (nestedLoop l m) :=
  congrArg (ofSolutions (v ∪ w)) (solutions_join (regular v l) (regular w m))

/-- **The join through buckets is the nested loop**: the merge of every compatible pair, the
left solutions in order and for each of them the right ones in order, as often as there are
such pairs.  Buckets by any names that all solutions of both sides bind give the same list. -/
theorem join_tries_all_pairs (a b : Bag) :
    (a.join b).solutions =
        (a.solutions.flatMap fun s => b.solutions.filterMap fun t =>
          if s.compatible t then some (s.union t) else none) ∧
      ∀ names, (∀ s ∈ a.solutions ++ b.solutions, ∀ x ∈ names, s.has x = true) →
        bucketJoin names a.solutions b.solutions = (a.join b).solutions := by
  refine ⟨solutions_join a b, ?_⟩
  intro names binds
  rw [solutions_join]
  refine bucketJoin_eq ?_ ?_
  · intro s member
    exact binds s (List.mem_append_left _ member)
  · intro s member
    exact binds s (List.mem_append_right _ member)

end Bag

namespace Sample

/-- Who is where; for some it is not known. -/
def present : Bag :=
  .ofSolutions ∅ [.ofList [("room", .iri "e7"), ("who", .iri "ann")], .ofList [("who", .iri "bob")],
    .ofList [("who", .iri "ann")]]

/-- Who is expected where; for some it does not matter. -/
def expected : Bag :=
  .ofSolutions ∅ [.ofList [("room", .iri "e8"), ("who", .iri "ann")],
    .ofList [("room", .iri "e7"), ("who", .iri "bob")], .ofList [("who", .iri "ann")]]

end Sample

/-- The person is the key.  In the bucket of ann there is a room that she is not in. -/
theorem Bag.join_tries_all_pairs_rooms :
    let merged : List Solution :=
      [.ofList [("room", .iri "e7"), ("who", .iri "ann")],
        .ofList [("room", .iri "e7"), ("who", .iri "bob")],
        .ofList [("room", .iri "e8"), ("who", .iri "ann")],
        .ofList [("who", .iri "ann")]]
    (Sample.present.join Sample.expected).solutions = merged ∧
      bucketJoin ["who"] Sample.present.solutions Sample.expected.solutions = merged := by
  intro merged
  obtain ⟨pairs, keyed⟩ := join_tries_all_pairs Sample.present Sample.expected
  have tried : (Sample.present.join Sample.expected).solutions = merged :=
    pairs.trans (by decide)
  exact ⟨tried, (keyed ["who"] (by decide)).trans tried⟩

end TripleAlgebra
