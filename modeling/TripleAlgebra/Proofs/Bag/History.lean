/-
# TripleAlgebra.Proofs.Bag.History -- what holds of every bag that operations can make

Some operations compute the declared names of a bag from its solutions, others hand on those
that they are given.  Whichever of them were used, and in whatever order, a bag so made
declares every name that its solutions bind (`Reachable.declares`).  Fixed names can then be
read off the solutions alone (`Declares.mem_fixed_iff`), and a join, an optional join and a
union have the fixed names that those of their sides give rise to (`fixed_of_history`).

The test of `retain` or `leftJoin` may keep a state, so that its answers are no function of the
solutions.  Nothing here depends on them: what is kept is part of what was there
(`sublist_keepM`), and an optional join makes one solution or more of each left one
(`leftJoinM_cases`).
-/
import TripleAlgebra.Bag.Effectful
import TripleAlgebra.Proofs.Bag.HashJoin
import TripleAlgebra.Proofs.Solution.Merge

namespace TripleAlgebra

set_option autoImplicit false

/-! ## Tests with a state -/

variable {σ : Type}

theorem sublist_keepM {α : Type} (test : α → StateM σ Bool) (l : List α) (state : σ) :
    ((keepM test l).run state).1.Sublist l := by
  induction l generalizing state with
  | nil => exact List.Sublist.refl _
  | cons a rest ih =>
      let answer := (test a).run state
      have later := ih answer.2
      show (if answer.1 then a :: ((keepM test rest).run answer.2).1
        else ((keepM test rest).run answer.2).1).Sublist (a :: rest)
      split
      · exact later.cons_cons a
      · exact later.cons a

namespace Bag

theorem names_retainM (keep : Solution → StateM σ Bool) (b : Bag) (state : σ) :
    ((b.retainM keep).run state).1.names = b.names := by
  cases b with
  | null => rfl
  | identity =>
      show (if ((keep ∅).run state).1 then identity else empty ∅).names = _
      split <;> rfl
  | regular names solutions => rfl

theorem sublist_retainM (keep : Solution → StateM σ Bool) (b : Bag) (state : σ) :
    ((b.retainM keep).run state).1.solutions.Sublist b.solutions := by
  cases b with
  | null => exact List.Sublist.refl _
  | identity =>
      show (if ((keep ∅).run state).1 then identity else empty ∅).solutions.Sublist [∅]
      split
      · exact List.Sublist.refl _
      · exact List.nil_sublist _
  | regular names solutions => exact sublist_keepM keep solutions state

/-- The first left solution of an optional join makes its accepted merges, or itself. -/
theorem optionalMatchesM_cons (accept : Solution → StateM σ Bool) (right : List Solution)
    (s : Solution) (rest : List Solution) (state : σ) :
    ∃ (merged : List Solution) (later : σ), merged.Sublist (right.filterMap s.merge) ∧
      ((optionalMatchesM accept right (s :: rest)).run state).1 =
        (if merged.isEmpty then [s] else merged) ++
          ((optionalMatchesM accept right rest).run later).1 :=
  ⟨_, _, sublist_keepM accept _ state, rfl⟩

/-- What an optional join makes extends a left solution. -/
theorem partOf_of_mem_optionalMatchesM {accept : Solution → StateM σ Bool}
    {left right : List Solution} {state : σ} {t : Solution}
    (member : t ∈ ((optionalMatchesM accept right left).run state).1) :
    ∃ s ∈ left, s.PartOf t := by
  induction left generalizing state with
  | nil => cases member
  | cons s rest ih =>
      obtain ⟨merged, later, kept, made⟩ := optionalMatchesM_cons accept right s rest state
      rw [made] at member
      rcases List.mem_append.1 member with here | there
      · refine ⟨s, List.mem_cons_self, ?_⟩
        split at here
        · rw [List.mem_singleton.1 here]
          exact Solution.PartOf.refl s
        · obtain ⟨u, -, result⟩ := List.mem_filterMap.1 (kept.subset here)
          exact Solution.partOf_of_merge result
      · obtain ⟨u, inside, part⟩ := ih there
        exact ⟨u, List.mem_cons_of_mem s inside, part⟩

/-- An optional join loses no left solution. -/
theorem optionalMatchesM_ne_nil (accept : Solution → StateM σ Bool) (right : List Solution)
    {left : List Solution} (some : left ≠ []) (state : σ) :
    ((optionalMatchesM accept right left).run state).1 ≠ [] := by
  cases left with
  | nil => exact absurd rfl some
  | cons s rest =>
      obtain ⟨merged, later, -, made⟩ := optionalMatchesM_cons accept right s rest state
      rw [made]
      cases merged with
      | nil => exact List.cons_ne_nil _ _
      | cons t others => exact List.cons_ne_nil _ _

/-- An optional join is `null`, for want of a left bag, or it holds extensions of left
solutions. -/
theorem leftJoinM_cases (a b : Bag) (accept : Solution → StateM σ Bool) (state : σ) :
    (a = null ∧ ((a.leftJoinM b accept).run state).1 = null) ∨
      ∃ l, ((a.leftJoinM b accept).run state).1 = ofSolutions (a.names ∪ b.names) l ∧
        (∀ t ∈ l, ∃ s ∈ a.solutions, s.PartOf t) ∧ (a.solutions ≠ [] → l ≠ []) := by
  have extensions : ∀ left : List Solution,
      (∀ t ∈ ((optionalMatchesM accept b.solutions left).run state).1, ∃ s ∈ left, s.PartOf t) ∧
        (left ≠ [] → ((optionalMatchesM accept b.solutions left).run state).1 ≠ []) :=
    fun left => ⟨fun t => partOf_of_mem_optionalMatchesM,
      fun some => optionalMatchesM_ne_nil accept b.solutions some state⟩
  cases a with
  | null => exact Or.inl ⟨rfl, rfl⟩
  | identity => exact Or.inr ⟨_, rfl, extensions [∅]⟩
  | regular names solutions => exact Or.inr ⟨_, rfl, extensions solutions⟩

/-! ## Declared names -/

/-- Every name that a solution binds is declared. -/
def Declares (b : Bag) : Prop :=
  ∀ s ∈ b.solutions, ∀ x, s.has x = true → x ∈ b.names

variable {a b m : Bag}

theorem declares_ofSolutions (names : NameSet) (l : List Solution) :
    (ofSolutions names l).Declares := by
  intro s inside x has
  refine NameSet.mem_union.2 (Or.inr (mem_boundNames.2 ⟨s, inside, ?_⟩))
  exact Bindings.has_eq_true_iff.1 has

namespace Declares

theorem of_subset (declares : b.Declares) (solutions : m.solutions ⊆ b.solutions)
    (names : m.names = b.names) : m.Declares := by
  intro s inside x has
  rw [names]
  exact declares s (solutions inside) x has

theorem join (onLeft : a.Declares) (onRight : b.Declares) : (a.join b).Declares := by
  cases a with
  | null => exact onLeft
  | identity => rwa [identity_join]
  | regular names solutions =>
      cases b with
      | null => exact onRight
      | identity => exact onLeft
      | regular names' solutions' =>
          rw [join_regular]
          exact declares_ofSolutions _ _

theorem union (onLeft : a.Declares) (onRight : b.Declares) : (a.union b).Declares := by
  by_cases noLeft : a = null
  · rwa [noLeft, null_union]
  by_cases noRight : b = null
  · rwa [noRight, union_null]
  rw [union_of_ne_null noLeft noRight]
  exact declares_ofSolutions _ _

theorem retain (declares : b.Declares) (keep : Solution → Bool) : (b.retain keep).Declares := by
  refine declares.of_subset ?_ (names_retain keep b)
  rw [solutions_retain]
  exact List.filter_subset_self _

theorem distinct (declares : b.Declares) : b.distinct.Declares := by
  refine declares.of_subset ?_ (names_distinct b)
  intro s inside
  rwa [solutions_distinct, List.mem_eraseDups] at inside

/-- A projection declares the listed names and binds no other. -/
theorem project (declares : b.Declares) (names : List String) : (b.project names).Declares := by
  cases b with
  | null => exact declares
  | identity => exact declares
  | regular declared solutions =>
      intro t inside x has
      obtain ⟨s, -, rfl⟩ := List.mem_map.1 inside
      refine NameSet.mem_ofList.2 ?_
      by_cases listed : x ∈ names
      · exact listed
      · simp [Solution.project, Bindings.has, listed] at has

theorem slice (declares : b.Declares) (offset : Nat) (limit : Option Nat) :
    (b.slice offset limit).Declares := by
  refine declares.of_subset ?_ (names_slice offset limit b)
  intro s inside
  rw [solutions_slice] at inside
  cases limit with
  | none => exact List.mem_of_mem_drop inside
  | some count => exact List.mem_of_mem_drop (List.mem_of_mem_take inside)

/-! ## Fixed names -/

/-- **A name is fixed when there is a solution and every solution binds it.**  That it is
declared need not be said. -/
theorem mem_fixed_iff (declares : b.Declares) {x : String} :
    x ∈ b.fixed ↔ b.solutions ≠ [] ∧ ∀ s ∈ b.solutions, s.has x = true := by
  rw [mem_fixed]
  constructor
  · rintro ⟨some, -, all⟩
    exact ⟨some, all⟩
  · rintro ⟨some, all⟩
    obtain ⟨s, inside⟩ := List.exists_mem_of_ne_nil _ some
    exact ⟨some, declares s inside x (all s inside), all⟩

/-- A bag whose solutions all extend solutions of another has the other's fixed names. -/
theorem fixed_of_partOf (declares : m.Declares) (some : m.solutions ≠ [])
    (grows : ∀ t ∈ m.solutions, ∃ s ∈ b.solutions, s.PartOf t) {x : String}
    (fixed : x ∈ b.fixed) : x ∈ m.fixed := by
  refine declares.mem_fixed_iff.2 ⟨some, ?_⟩
  intro t inside
  obtain ⟨s, member, part⟩ := grows t inside
  exact part.has ((mem_fixed.1 fixed).2.2 s member)

/-- A join that has a solution fixes what either of its sides fixes. -/
theorem fixed_join (onLeft : a.Declares) (onRight : b.Declares) (some : (a.join b).solutions ≠ [])
    {x : String} (fixed : x ∈ a.fixed ∨ x ∈ b.fixed) : x ∈ (a.join b).fixed := by
  have declares := onLeft.join onRight
  have made : ∀ t ∈ (a.join b).solutions,
      (∃ s ∈ a.solutions, s.PartOf t) ∧ ∃ s ∈ b.solutions, s.PartOf t := by
    intro t inside
    rw [solutions_join] at inside
    obtain ⟨s, inA, u, inB, merged⟩ := mem_nestedLoop.1 inside
    exact ⟨⟨s, inA, Solution.partOf_of_merge merged⟩,
      u, inB, Solution.partOf_of_merge_right merged⟩
  rcases fixed with left | right
  · exact declares.fixed_of_partOf some (fun t inside => (made t inside).1) left
  · exact declares.fixed_of_partOf some (fun t inside => (made t inside).2) right

/-- An optional join fixes what its left side fixes. -/
theorem fixed_leftJoinM (some : a.solutions ≠ []) (accept : Solution → StateM σ Bool)
    (state : σ) {x : String} (fixed : x ∈ a.fixed) :
    x ∈ ((a.leftJoinM b accept).run state).1.fixed := by
  rcases leftJoinM_cases a b accept state with ⟨rfl, -⟩ | ⟨l, made, extensions, kept⟩
  · exact absurd rfl some
  · rw [made]
    exact (declares_ofSolutions _ _).fixed_of_partOf (kept some) extensions fixed

/-- A union of two bags that have solutions fixes what both sides fix. -/
theorem fixed_union (onLeft : a.Declares) (onRight : b.Declares) (someLeft : a.solutions ≠ [])
    (someRight : b.solutions ≠ []) : (a.union b).fixed = a.fixed ∩ b.fixed := by
  refine NameSet.ext_mem ?_
  intro x
  have some : a.solutions ++ b.solutions ≠ [] := List.append_ne_nil_of_left_ne_nil someLeft _
  rw [(onLeft.union onRight).mem_fixed_iff, NameSet.mem_inter, onLeft.mem_fixed_iff,
    onRight.mem_fixed_iff, solutions_union]
  simp only [List.mem_append, or_imp, forall_and, ne_eq, some, someLeft, someRight,
    not_false_eq_true, true_and]

end Declares

theorem fixed_disjoint_floating (b : Bag) : b.fixed.disjoint b.floating = true :=
  NameSet.disjoint_eq_true_iff.2 fun _ fixed floating => (NameSet.mem_diff.1 floating).2 fixed

theorem fixed_union_floating (b : Bag) : b.fixed ∪ b.floating = b.names := by
  refine NameSet.ext_mem ?_
  intro x
  rw [NameSet.mem_union, floating, NameSet.mem_diff]
  by_cases fixed : x ∈ b.fixed
  · simp [fixed, (mem_fixed.1 fixed).2.1]
  · simp [fixed]

/-! ## Histories -/

/-- The bags that operations can make, whatever is asked of them and whatever their tests
answer. -/
inductive Reachable : Bag → Prop where
  | identity : Reachable .identity
  | null : Reachable .null
  | empty (names : NameSet) : Reachable (.empty names)
  | ofSolutions (names : NameSet) (solutions : List Solution) :
      Reachable (.ofSolutions names solutions)
  | join {a b : Bag} (first : Reachable a) (second : Reachable b) : Reachable (a.join b)
  | leftJoin {a b : Bag} {σ : Type} (first : Reachable a) (second : Reachable b)
      (accept : Solution → StateM σ Bool) (state : σ) :
      Reachable ((a.leftJoinM b accept).run state).1
  | union {a b : Bag} (first : Reachable a) (second : Reachable b) : Reachable (a.union b)
  | semiJoin {a b : Bag} (first : Reachable a) (second : Reachable b) (mustExist : Bool) :
      Reachable (a.semiJoin b mustExist)
  | minus {a b : Bag} (first : Reachable a) (second : Reachable b) : Reachable (a.minus b)
  | retain {b : Bag} {σ : Type} (former : Reachable b) (keep : Solution → StateM σ Bool)
      (state : σ) : Reachable ((b.retainM keep).run state).1
  | distinct {b : Bag} (former : Reachable b) : Reachable b.distinct
  | project {b : Bag} (former : Reachable b) (names : List String) : Reachable (b.project names)
  | slice {b : Bag} (former : Reachable b) (offset : Nat) (limit : Option Nat) :
      Reachable (b.slice offset limit)

namespace Reachable

/-- A test without a state is one that leaves it alone. -/
theorem retain_of_pure {b : Bag} (former : Reachable b) (keep : Solution → Bool) :
    Reachable (b.retain keep) := by
  have made := former.retain (fun s => (pure (keep s) : StateM Unit Bool)) ()
  rw [retainM_pure] at made
  exact made

theorem leftJoin_of_pure {a b : Bag} (first : Reachable a) (second : Reachable b)
    (accept : Solution → Bool) : Reachable (a.leftJoin b accept) := by
  have made := first.leftJoin second (fun s => (pure (accept s) : StateM Unit Bool)) ()
  rw [leftJoinM_pure] at made
  exact made

/-- **Every bag that operations can make declares the names that it binds.** -/
theorem declares {b : Bag} (reachable : Reachable b) : b.Declares := by
  induction reachable with
  | identity =>
      intro s inside x has
      obtain rfl := List.mem_singleton.1 inside
      cases has
  | null => exact nofun
  | empty names => exact nofun
  | ofSolutions names solutions => exact declares_ofSolutions names solutions
  | join first second ihLeft ihRight => exact ihLeft.join ihRight
  | @leftJoin a b σ first second accept state ihLeft ihRight =>
      rcases leftJoinM_cases a b accept state with ⟨-, made⟩ | ⟨l, made, -, -⟩
      · rw [made]
        exact nofun
      · rw [made]
        exact declares_ofSolutions _ l
  | union first second ihLeft ihRight => exact ihLeft.union ihRight
  | semiJoin first second mustExist ihLeft ihRight => exact ihLeft.retain _
  | minus first second ihLeft ihRight => exact ihLeft.retain _
  | @retain b σ former keep state ih =>
      exact ih.of_subset (sublist_retainM keep b state).subset (names_retainM keep b state)
  | distinct former ih => exact ih.distinct
  | project former names ih => exact ih.project names
  | slice former offset limit ih => exact ih.slice offset limit

end Reachable

/-- **What the names of a bag say after any history.**  Of a bag that operations have made,

* every name that a solution binds is declared; the fixed and the floating names are disjoint
  and make up the declared ones; and a name is fixed exactly when there is a solution and all
  solutions bind it.

With another such bag for its right side,

* a join that is not empty fixes all that either side fixes;
* an optional join fixes all that its left side fixes, unless that is empty;
* a union of two bags that are not empty fixes what both of them fix and nothing else. -/
theorem fixed_of_history {a b : Bag} (first : Reachable a) (second : Reachable b) :
    (∀ s ∈ a.solutions, ∀ x, s.has x = true → x ∈ a.names) ∧
    a.fixed.disjoint a.floating = true ∧ a.fixed ∪ a.floating = a.names ∧
    (∀ x, x ∈ a.fixed ↔ a.solutions ≠ [] ∧ ∀ s ∈ a.solutions, s.has x = true) ∧
    ((a.join b).solutions ≠ [] → ∀ x, x ∈ a.fixed ∨ x ∈ b.fixed → x ∈ (a.join b).fixed) ∧
    (a.solutions ≠ [] → ∀ (σ : Type) (accept : Solution → StateM σ Bool) (state : σ),
      ∀ x ∈ a.fixed, x ∈ ((a.leftJoinM b accept).run state).1.fixed) ∧
    (a.solutions ≠ [] → b.solutions ≠ [] → (a.union b).fixed = a.fixed ∩ b.fixed) := by
  have onLeft := first.declares
  have onRight := second.declares
  refine ⟨onLeft, fixed_disjoint_floating a, fixed_union_floating a,
    fun x => onLeft.mem_fixed_iff, ?_, ?_, onLeft.fixed_union onRight⟩
  · intro some x
    exact onLeft.fixed_join onRight some
  · intro some σ accept state x
    exact Declares.fixed_leftJoinM some accept state

/-- One of two people has a telephone, and a test that accepts one pair in all lets it be
listed.  The number is floating then; joined to the telephones the list fixes it, and united
with them it does not. -/
theorem fixed_of_history_telephones :
    let person (name : String) : Solution := Bindings.ofList [("who", .iri name)]
    let people := ofSolutions ∅ [person "ann", person "bob"]
    let phones := ofSolutions ∅ [(person "ann").insert "number" (.iri "112")]
    let once : Solution → StateM Bool Bool := fun _ => do
      let unused ← get
      set false
      return unused
    let listed := ((people.leftJoinM phones once).run true).1
    Reachable listed ∧ Reachable phones ∧ listed.floating = .ofList ["number"] ∧
      "number" ∈ (listed.join phones).fixed ∧ (listed.union phones).fixed = .ofList ["who"] := by
  intro person people phones once listed
  have second : Reachable phones := Reachable.ofSolutions ∅ _
  have first : Reachable listed := (Reachable.ofSolutions ∅ _).leftJoin second once true
  obtain ⟨-, -, -, -, join, -, union⟩ := fixed_of_history first second
  refine ⟨first, second, by decide, join ?_ "number" (Or.inr (by decide)), ?_⟩
  · rw [solutions_join]
    decide
  · exact (union (by decide) (by decide)).trans (by decide)

end Bag

end TripleAlgebra
