/-
# TripleAlgebra.Proofs.Solution.Merge -- merging in another order

Which of two compatible solutions comes first does not matter to their merge
(`merge_comm`), and which two of three are merged first does not matter either, also where
one of the merges is refused (`merge_assoc`): from either end, three solutions merge exactly
when any two of them are compatible (`merge_merge`, `merge_merge_right`).  With the empty
solution for its unit, merging is a partial commutative monoid.

Nor does it matter how a merge is worked out.  The variables of the side that binds fewer are
enough to test, and the first side may be filled in from the second (`mergeFromFewer_eq`).

A merge remembers its parts: a solution that is part of it is given by the names that it
binds (`PartOf.eq_of_has`), and whatever covers a solution by two sets of names splits it
into two solutions that merge into it again (`merge_restrict`).  What is compatible with a
solution and binds only names that the solution binds is cut out of it by these names
(`compatible_iff_restrict_eq`).
-/
import TripleAlgebra.Proofs.Solution.Order

namespace TripleAlgebra.Solution

set_option autoImplicit false

variable {a b c : Solution}

/-! ## Unions -/

theorem union_comm (fits : a.compatible b = true) : a.union b = b.union a := by
  refine Bindings.ext_get? ?_
  intro x
  rw [Bindings.get?_union, Bindings.get?_union]
  cases atA : a.get? x with
  | none => simp
  | some t =>
      cases atB : b.get? x with
      | none => rfl
      | some u => rw [compatible_iff.1 fits x t u atA atB, Option.or_self]

theorem union_assoc (a b c : Solution) : (a.union b).union c = a.union (b.union c) := by
  refine Bindings.ext_get? ?_
  intro x
  simp only [Bindings.get?_union, Option.or_assoc]

/-- A solution is compatible with a merge when it is compatible with both parts. -/
theorem compatible_union (fits : a.compatible b = true) (c : Solution) :
    compatible (a.union b) c = (a.compatible c && b.compatible c) := by
  have partB : PartOf b (a.union b) := by
    rw [union_comm fits]
    exact partOf_union b a
  rw [Bool.eq_iff_iff, Bool.and_eq_true]
  constructor
  · intro both
    exact ⟨(partOf_union a b).compatible both, partB.compatible both⟩
  · rintro ⟨withA, withB⟩
    rw [compatible_iff]
    intro x t u bound atC
    rcases Option.or_eq_some_iff.1 ((Bindings.get?_union a b x).symm.trans bound) with
      atA | ⟨-, atB⟩
    · exact compatible_iff.1 withA x t u atA atC
    · exact compatible_iff.1 withB x t u atB atC

/-! ## Merges -/

theorem merge_comm (a b : Solution) : a.merge b = b.merge a := by
  unfold merge
  rw [compatible_comm b a]
  by_cases fits : a.compatible b = true
  · rw [if_pos fits, if_pos fits, union_comm fits]
  · rw [if_neg fits, if_neg fits]

theorem isSome_merge (a b : Solution) : (a.merge b).isSome = a.compatible b := by
  rw [merge, Bool.eq_iff_iff, Option.isSome_ite]

/-- From the left, three solutions are merged when any two of them are compatible. -/
theorem merge_merge (a b c : Solution) :
    ((a.merge b).bind fun ab => ab.merge c) =
      if a.compatible b && a.compatible c && b.compatible c then some (a.union (b.union c))
      else none := by
  unfold merge
  by_cases fits : a.compatible b = true
  · rw [if_pos fits, Option.bind_some, compatible_union fits, union_assoc, fits, Bool.true_and]
  · rw [if_neg fits, Option.bind_none]
    simp [fits]

/-- From the right, they are merged under the same condition. -/
theorem merge_merge_right (a b c : Solution) :
    (b.merge c).bind a.merge =
      if a.compatible b && a.compatible c && b.compatible c then some (a.union (b.union c))
      else none := by
  unfold merge
  by_cases fits : b.compatible c = true
  · rw [if_pos fits, Option.bind_some, compatible_comm a (b.union c), compatible_union fits,
      compatible_comm b a, compatible_comm c a, fits, Bool.and_true]
  · rw [if_neg fits, Option.bind_none]
    simp [fits]

/-- Three solutions are merged from the left as from the right. -/
theorem merge_assoc (a b c : Solution) :
    ((a.merge b).bind fun ab => ab.merge c) = (b.merge c).bind a.merge :=
  (merge_merge a b c).trans (merge_merge_right a b c).symm

/-- Either side is part of a merge. -/
theorem partOf_of_merge_right (merged : a.merge b = some c) : b.PartOf c :=
  partOf_of_merge ((merge_comm b a).trans merged)

/-- A merge binds what either side binds, to the same terms. -/
theorem get?_of_merge (merged : a.merge b = some c) (x : String) (t : Term) :
    c.get? x = some t ↔ a.get? x = some t ∨ b.get? x = some t := by
  constructor
  · intro bound
    obtain ⟨-, rfl⟩ := merge_eq_some_iff.1 merged
    rw [Bindings.get?_union] at bound
    exact (Option.or_eq_some_iff.1 bound).imp_right And.right
  · rintro (atA | atB)
    · exact partOf_of_merge merged x t atA
    · exact partOf_of_merge_right merged x t atB

/-! ## Parts -/

/-- Two parts of one solution that bind the same names are the same. -/
theorem PartOf.eq_of_has (first : a.PartOf c) (second : b.PartOf c)
    (same : ∀ x, a.has x = b.has x) : a = b := by
  refine Bindings.ext_get? ?_
  intro x
  have bothBound := same x
  simp only [Bindings.has] at bothBound
  cases atA : a.get? x with
  | none =>
      rw [atA] at bothBound
      exact (Option.isNone_iff_eq_none.1 (by simpa using bothBound.symm)).symm
  | some t =>
      rw [atA] at bothBound
      obtain ⟨u, atB⟩ := Option.isSome_iff_exists.1 bothBound.symm
      rw [atB, ← second x u atB, first x t atA]

/-- Parts of one solution are compatible. -/
theorem PartOf.compatible_parts (first : a.PartOf c) (second : b.PartOf c) :
    a.compatible b = true := by
  rw [compatible_iff]
  intro x t u atA atB
  exact Option.some.inj ((first x t atA).symm.trans (second x u atB))

theorem merge_self (a : Solution) : a.merge a = some a := by
  refine merge_eq_some_iff.2 ⟨(PartOf.refl a).compatible_parts (PartOf.refl a), ?_⟩
  refine Bindings.ext_get? ?_
  intro x
  rw [Bindings.get?_union, Option.or_self]

/-- A solution that binds some names throughout is compatible with a combination of terms for
exactly these names when it has the combination. -/
theorem compatible_iff_restrict_eq {keep : String → Bool}
    (domain : ∀ x, a.has x = true ↔ keep x = true) (bound : ∀ x, keep x = true → b.has x = true) :
    a.compatible b = true ↔ b.restrict keep = a := by
  constructor
  · intro fits
    refine Bindings.ext_get? ?_
    intro x
    rw [Bindings.get?_restrict]
    by_cases kept : keep x = true
    · obtain ⟨t, atA⟩ := Option.isSome_iff_exists.1 ((domain x).2 kept)
      obtain ⟨u, atB⟩ := Option.isSome_iff_exists.1 (bound x kept)
      rw [if_pos kept, atA, atB, compatible_iff.1 fits x t u atA atB]
    · have free := mt (domain x).1 kept
      simp only [Bindings.has, Bool.not_eq_true, Option.isSome_eq_false_iff,
        Option.isNone_iff_eq_none] at free
      rw [if_neg kept, free]
  · rintro rfl
    exact (partOf_restrict keep b).compatible_parts (PartOf.refl b)

/-- A solution is the merge of two cuts that leave out no name that it binds. -/
theorem merge_restrict (s : Solution) {keep keep' : String → Bool}
    (covers : ∀ x, s.has x = true → keep x = true ∨ keep' x = true) :
    merge (s.restrict keep) (s.restrict keep') = some s := by
  have fits := (partOf_restrict keep s).compatible_parts (partOf_restrict keep' s)
  refine merge_eq_some_iff.2 ⟨fits, Bindings.ext_get? ?_⟩
  intro x
  rw [Bindings.get?_union, Bindings.get?_restrict, Bindings.get?_restrict]
  cases bound : s.get? x with
  | none => simp
  | some t =>
      rcases covers x (by simp [Bindings.has, bound]) with kept | kept
      · simp [kept]
      · by_cases first : keep x = true <;> simp [kept, first]

/-! ## Working out a merge -/

/-- Bind a variable unless it is bound. -/
def bindFree (s : Solution) (entry : String × Term) : Solution :=
  if s.has entry.1 then s else s.insert entry.1 entry.2

/-- The first solution, with the bindings of the second for variables that it leaves free. -/
def fillIn (a b : Solution) : Solution :=
  b.entries.foldl bindFree a

/-- Hold the side that binds fewer variables against the other, then fill in the first side from
the second. -/
def mergeFromFewer (a b : Solution) : Option Solution :=
  let fits := if a.entries.length ≤ b.entries.length then a.compatible b else b.compatible a
  if fits then some (a.fillIn b) else none

theorem get?_bindFree (s : Solution) (entry : String × Term) (x : String) :
    (s.bindFree entry).get? x = (s.get? x).or (if x = entry.1 then some entry.2 else none) := by
  unfold bindFree Bindings.has
  by_cases here : x = entry.1
  · cases bound : s.get? entry.1 <;> simp [bound, here]
  · cases s.get? entry.1 <;> simp [here]

theorem get?_foldl_bindFree (entries : List (String × Term)) (s : Solution) (x : String) :
    (entries.foldl bindFree s).get? x = (s.get? x).or (lookupEntry x entries) := by
  induction entries generalizing s with
  | nil => simp [lookupEntry]
  | cons entry rest ih =>
      rw [List.foldl_cons, ih, get?_bindFree, Option.or_assoc, lookupEntry]
      split <;> rfl

theorem fillIn_eq_union (a b : Solution) : a.fillIn b = a.union b := by
  refine Bindings.ext_get? ?_
  intro x
  rw [Bindings.get?_union]
  exact get?_foldl_bindFree b.entries a x

theorem mergeFromFewer_eq (a b : Solution) : a.mergeFromFewer b = a.merge b := by
  unfold mergeFromFewer merge
  rw [fillIn_eq_union, compatible_comm b a, ite_self]

/-! ## The laws together -/

/-- **Solutions under merging are a partial commutative monoid, and each is idempotent.**  Of any
three solutions,

* two have a merge exactly when every variable that both bind has the same term in both, also
  when the merge is worked out from the side that binds fewer; and it binds what either binds, to
  the same terms, and nothing else;
* the two may be exchanged, the empty solution changes nothing, and neither does a solution
  merged with itself;
* the merge of the first two merges with the third exactly when the first merges with the merge
  of the others, the result is the same, and there is one exactly when any two of the three are
  compatible. -/
theorem merge_lawful (a b c : Solution) :
    ((a.merge b).isSome = true ↔ ∀ x t u, a.get? x = some t → b.get? x = some u → t = u) ∧
    a.mergeFromFewer b = a.merge b ∧
    (∀ ab, a.merge b = some ab →
      ∀ x t, ab.get? x = some t ↔ a.get? x = some t ∨ b.get? x = some t) ∧
    a.merge b = b.merge a ∧ merge ∅ a = some a ∧ a.merge ∅ = some a ∧ a.merge a = some a ∧
    ((a.merge b).bind fun ab => ab.merge c) = ((b.merge c).bind fun bc => a.merge bc) ∧
    (((a.merge b).bind fun ab => ab.merge c).isSome = true ↔
      a.compatible b = true ∧ a.compatible c = true ∧ b.compatible c = true) := by
  refine ⟨?_, mergeFromFewer_eq a b, fun ab => get?_of_merge, merge_comm a b, merge_empty a,
    merge_empty_right a, merge_self a, merge_assoc a b c, ?_⟩
  · rw [isSome_merge]
    exact compatible_iff
  · simp only [merge_merge, Option.isSome_ite, Bool.and_eq_true, and_assoc]

/-- Ann lodges in a room, and of this room the floor is known but not who is in it.  The floor goes
with all that is known of another guest too, but the three are not merged from either end. -/
theorem merge_lawful_rooms :
    let lodging : Solution := .ofList [("room", .iri "e7"), ("who", .iri "ann")]
    let room : Solution := .ofList [("floor", .iri "1"), ("room", .iri "e7")]
    let guest : Solution := .ofList [("who", .iri "bob")]
    let both : Solution :=
      .ofList [("floor", .iri "1"), ("room", .iri "e7"), ("who", .iri "ann")]
    lodging.merge room = some both ∧
    (∀ x t, both.get? x = some t ↔ lodging.get? x = some t ∨ room.get? x = some t) ∧
    (room.merge guest).isSome = true ∧ lodging.merge guest = none ∧
    ((room.merge guest).bind fun other => lodging.merge other) = none := by
  intro lodging room guest both
  obtain ⟨-, -, binds, -, -, -, -, assoc, -⟩ := merge_lawful lodging room guest
  have merged : lodging.merge room = some both := by decide
  refine ⟨merged, binds both merged, by decide, by decide, ?_⟩
  rw [← assoc, merged]
  decide

end TripleAlgebra.Solution
