/-
# TripleAlgebra.Proofs.Algebra.Monotonicity -- more triples, no fewer solutions

A query is positive when nothing in it asks for the absence of a solution, for the place of
one, or for what to do when there is none (`Algebra.isPositive`).  Over more triples every
part of such a query means as many solutions of each kind or more
(`subperm_tolerantMeaning`): each operator takes lists that have grown, in whatever places,
to lists that have.

How an answer is found does change with the data.  Further triples fill sides that were
empty, add solutions that leave a variable unbound, and with them change what is narrowed on
and how a join finds its pairs.  None of it matters, because an answer is the tolerant meaning
each time (`count_le_of_positive`).
-/
import TripleAlgebra.Proofs.Algebra.Homomorphism
import TripleAlgebra.Proofs.Algebra.Refinement
import TripleAlgebra.Proofs.Store.History

namespace TripleAlgebra

set_option autoImplicit false

universe u v

/-! ## Positive queries -/

/-- The modifier looks at each solution alone. -/
def Modifier.isPositive : Modifier → Bool
  | extend _ => true
  | filter _ => true
  | distinct => true
  | project _ => true
  | slice _ _ => false

/-- The combinator does nothing for want of a right solution. -/
def Combinator.isPositive : Combinator → Bool
  | join => true
  | leftJoin _ => false
  | union => true
  | semiJoin mustExist => mustExist
  | minus => false

/-- All operators of the query are positive. -/
def Algebra.isPositive : Algebra → Bool
  | pattern _ => true
  | bgp _ => true
  | modify modifier inner => modifier.isPositive && inner.isPositive
  | combine combinator left right =>
      combinator.isPositive && (left.isPositive && right.isPositive)

/-! ## Lists -/

/-- What makes no fewer elements of each makes no fewer of all. -/
theorem subperm_flatMap_of_forall {α : Type u} {β : Type v} {f g : α → List β} (l : List α)
    (fewer : ∀ a ∈ l, (f a).Subperm (g a)) : (l.flatMap f).Subperm (l.flatMap g) := by
  induction l with
  | nil => exact List.Subperm.refl _
  | cons a rest ih =>
      rw [List.flatMap_cons, List.flatMap_cons]
      exact (fewer a List.mem_cons_self).append
        (ih fun b member => fewer b (List.mem_cons_of_mem a member))

theorem subperm_filterMap {α : Type u} {β : Type v} {l m : List α} (fewer : l.Subperm m)
    (f : α → Option β) : (l.filterMap f).Subperm (m.filterMap f) := by
  rw [List.filterMap_eq_flatMap_toList, List.filterMap_eq_flatMap_toList]
  exact subperm_flatMap fewer _

theorem subperm_map {α : Type u} {β : Type v} {l m : List α} (fewer : l.Subperm m)
    (f : α → β) : (l.map f).Subperm (m.map f) := by
  rw [List.map_eq_flatMap, List.map_eq_flatMap]
  exact subperm_flatMap fewer _

/-! ## Operators -/

variable {l l' m m' : List Solution}

theorem Bag.subperm_nestedLoop (onLeft : l.Subperm m) (onRight : l'.Subperm m') :
    (nestedLoop l l').Subperm (nestedLoop m m') :=
  (subperm_flatMap_of_forall l fun s _ => subperm_filterMap onRight s.merge).trans
    (subperm_flatMap onLeft _)

/-- A solution that has a partner keeps it. -/
theorem Bag.subperm_filter_any (onLeft : l.Subperm m) (onRight : l'.Subperm m') :
    (l.filter fun s => l'.any s.compatible).Subperm (m.filter fun s => m'.any s.compatible) := by
  refine (onLeft.filter _).trans (List.Sublist.subperm ?_)
  refine List.monotone_filter_right m ?_
  intro s partner
  obtain ⟨t, inside, fits⟩ := List.any_eq_true.1 partner
  exact List.any_eq_true.2 ⟨t, onRight.subset inside, fits⟩

theorem Modifier.subperm_tolerant {modifier : Modifier} (positive : modifier.isPositive = true)
    (fewer : l.Subperm m) : (modifier.tolerant l).Subperm (modifier.tolerant m) := by
  cases modifier with
  | extend assignments => exact subperm_filterMap fewer _
  | filter condition => exact fewer.filter _
  | distinct => exact subperm_eraseDups fewer.subset
  | project names => exact subperm_map fewer _
  | slice offset limit => cases positive

theorem Combinator.subperm_meaning {combinator : Combinator}
    (positive : combinator.isPositive = true) (onLeft : l.Subperm m) (onRight : l'.Subperm m') :
    (combinator.meaning l l').Subperm (combinator.meaning m m') := by
  cases combinator with
  | join => exact Bag.subperm_nestedLoop onLeft onRight
  | leftJoin filter => cases positive
  | union => exact onLeft.append onRight
  | semiJoin mustExist =>
      obtain rfl : mustExist = true := positive
      simp only [meaning, beq_true]
      exact Bag.subperm_filter_any onLeft onRight
  | minus => cases positive

/-! ## Queries -/

variable {triples triples' : List Triple}

theorem Pattern.subperm_meaning (p : Pattern) (fewer : triples.Subperm triples') :
    (p.meaning triples).Subperm (p.meaning triples') := by
  unfold Pattern.meaning
  split
  · by_cases found : triples.any p.fits = true
    · obtain ⟨t, inside, fits⟩ := List.any_eq_true.1 found
      have still : triples'.any p.fits = true :=
        List.any_eq_true.2 ⟨t, fewer.subset inside, fits⟩
      rw [if_pos found, if_pos still]
    · rw [if_neg found]
      exact List.nil_subperm
  · exact subperm_map (fewer.filter _) _

theorem subperm_bgpMeaning (ps : List Pattern) (fewer : triples.Subperm triples') :
    (bgpMeaning ps triples).Subperm (bgpMeaning ps triples') := by
  induction ps using List.reverseRecOn with
  | nil => exact List.Subperm.refl _
  | append_singleton rest p ih =>
      rw [bgpMeaning_concat, bgpMeaning_concat]
      exact Bag.subperm_nestedLoop ih (p.subperm_meaning fewer)

/-! Who is in an office and has a telephone, marked as reachable; and a store in which a second
telephone is entered later, after terms that form no triple. -/

namespace Sample

def loading : List Store.Step :=
  facts.map .insert

def secondPhone : List Store.Step :=
  [.insertTerms (.ofBool true) (.iri "phone") (.iri "112"),
    .insertTerms (.iri "bob") (.iri "phone") (.iri "113")]

def reachable : Algebra :=
  .modify .distinct (.modify (.project ["who", "reachable"])
    (.combine (.semiJoin true)
      (.modify (.extend ⟨⟨"reachable", .const (.ofBool true)⟩, []⟩)
        (.combine .join (.bgp [inOffice "who"]) (column "phone" "number")))
      (column "office" "room")))

end Sample

namespace Algebra

/-- **Over more triples a positive query means no fewer solutions.** -/
theorem subperm_tolerantMeaning {a : Algebra} (positive : a.isPositive = true)
    (fewer : triples.Subperm triples') :
    (a.tolerantMeaning triples).Subperm (a.tolerantMeaning triples') := by
  induction a with
  | pattern p => exact p.subperm_meaning fewer
  | bgp ps => exact subperm_bgpMeaning ps fewer
  | modify modifier inner ih =>
      obtain ⟨here, below⟩ := Bool.and_eq_true_iff.1 positive
      exact Modifier.subperm_tolerant here (ih below)
  | combine combinator left right ihLeft ihRight =>
      obtain ⟨here, below⟩ := Bool.and_eq_true_iff.1 positive
      obtain ⟨onLeft, onRight⟩ := Bool.and_eq_true_iff.1 below
      exact Combinator.subperm_meaning here (ihLeft onLeft) (ihRight onRight)

/-- **Further inserts take no solution away from a positive query.**  Of a store with some
history and of the same store after more steps, whatever these are: if the query has an answer
both times, the later one has every solution at least as often. -/
theorem count_le_of_positive {a : Algebra} (positive : a.isPositive = true)
    {steps further : List Store.Step} {fullIndexing fullIndexing' : Bool} {clock later : Clock}
    {m n : Bag}
    (before : (a.answer (Store.empty.takeAll steps).dataset ⟨fullIndexing, none⟩ clock
      .identity).result = .ok m)
    (after : (a.answer ((Store.empty.takeAll steps).takeAll further).dataset
      ⟨fullIndexing', none⟩ later .identity).result = .ok n) (s : Solution) :
    m.solutions.count s ≤ n.solutions.count s := by
  have fewer : (Store.accepted steps).eraseDups.Subperm
      (Store.accepted steps ++ Store.accepted further).eraseDups :=
    subperm_eraseDups (List.subset_append_left _ _)
  rw [Store.takeAll_empty] at before
  rw [Store.takeAll_takeAll_empty] at after
  rw [solutions_answer_identity before, solutions_answer_identity after]
  exact (subperm_tolerantMeaning positive fewer).count_le s

/-- The second telephone is found in addition to the first; the refused triple shows nowhere. -/
theorem count_le_of_positive_telephones :
    ∃ m n,
      (Sample.reachable.answer (Store.empty.takeAll Sample.loading).dataset ⟨true, none⟩ {}
        .identity).result = .ok m ∧
      (Sample.reachable.answer
        ((Store.empty.takeAll Sample.loading).takeAll Sample.secondPhone).dataset ⟨false, none⟩ {}
        .identity).result = .ok n ∧
      m.solutions.length = 1 ∧ n.solutions.length = 2 ∧
      ∀ s, m.solutions.count s ≤ n.solutions.count s := by
  obtain ⟨m, before⟩ := answer_of_meaning Sample.reachable (Store.accepted Sample.loading) rfl
    true {} .identity
  obtain ⟨n, after⟩ := answer_of_meaning Sample.reachable
    (Store.accepted Sample.loading ++ Store.accepted Sample.secondPhone) rfl false {} .identity
  have one : m.solutions.length = 1 := by
    rw [solutions_answer_identity before]
    rfl
  have two : n.solutions.length = 2 := by
    rw [solutions_answer_identity after]
    rfl
  rw [← Store.takeAll_empty] at before
  rw [← Store.takeAll_takeAll_empty] at after
  exact ⟨m, n, before, after, one, two, count_le_of_positive rfl before after⟩

end Algebra

end TripleAlgebra
