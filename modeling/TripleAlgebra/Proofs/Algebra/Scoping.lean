/-
# TripleAlgebra.Proofs.Algebra.Scoping -- what a query binds is what its form says

The scope of a query is computed from its form alone, by a recursion of its own.  A
scope describes a bag when every solution binds its fixed names, no solution binds any
name outside it, and no further name is declared (`Scope.Describes`).

Each operator on bags takes bags that are described to a bag that its operator on
scopes describes (`Modifier.describes_apply`, `Combinator.describes_apply`), so by
induction the scope of a query describes every answer, under every input and over every
dataset, also one that answers wrongly (`ensures_evaluate`, `answer_within_scope`).
-/
import TripleAlgebra.Proofs.Algebra.Extension
import TripleAlgebra.Proofs.Algebra.Outcome
import TripleAlgebra.Proofs.Bag.HashJoin
import TripleAlgebra.Proofs.Pattern.Binding
import TripleAlgebra.Proofs.Store.Contents

namespace TripleAlgebra

set_option autoImplicit false

/-! ## Scopes -/

namespace Scope

theorem mem_names {scope : Scope} {x : String} :
    x ∈ scope.names ↔ x ∈ scope.fixed ∨ x ∈ scope.floating :=
  NameSet.mem_union

theorem mem_names_ofFixed {fixed others : NameSet} {x : String} :
    x ∈ (ofFixed fixed others).names ↔ x ∈ fixed ∨ x ∈ others := by
  simp only [mem_names, ofFixed, NameSet.mem_diff]
  by_cases inFixed : x ∈ fixed <;> simp [inFixed]

/-- The scope of solutions that all bind the same names. -/
def exact (names : NameSet) : Scope :=
  ⟨names, ∅⟩

theorem mem_names_exact {names : NameSet} {x : String} :
    x ∈ (exact names).names ↔ x ∈ names := by
  simp [mem_names, exact]

/-- The scope of a join of solutions that all bind certain names. -/
theorem join_exact (a b : NameSet) :
    Combinator.join.scope (exact a) (exact b) = exact (a ∪ b) := by
  have none : (∅ ∪ ∅ : NameSet) \ (a ∪ b) = ∅ := NameSet.ext_mem fun x => by simp
  simp only [Combinator.scope, ofFixed, exact, none]

/-- Every solution binds the fixed names, and none binds or declares a name outside. -/
structure Describes (scope : Scope) (b : Bag) : Prop where
  fixed : ∀ s ∈ b.solutions, ∀ x ∈ scope.fixed, s.has x = true
  bound : ∀ s ∈ b.solutions, ∀ x, s.has x = true → x ∈ scope.names
  declared : ∀ x ∈ b.names, x ∈ scope.names

namespace Describes

variable {scope : Scope} {b m : Bag}

theorem null (scope : Scope) : scope.Describes .null :=
  ⟨nofun, nofun, nofun⟩

/-- Where no name is fixed the one empty solution is described. -/
theorem identity (unfixed : ∀ x, x ∉ scope.fixed) : scope.Describes .identity := by
  refine ⟨?_, ?_, nofun⟩
  · intro s _ x member
    exact absurd member (unfixed x)
  · intro s inside x has
    obtain rfl := List.mem_singleton.1 inside
    cases has

/-- A regular bag declares what it is given and what its solutions bind. -/
theorem ofSolutions {names : NameSet} {l : List Solution}
    (fixed : ∀ s ∈ l, ∀ x ∈ scope.fixed, s.has x = true)
    (bound : ∀ s ∈ l, ∀ x, s.has x = true → x ∈ scope.names)
    (declared : ∀ x ∈ names, x ∈ scope.names) :
    scope.Describes (.ofSolutions names l) := by
  refine ⟨fixed, bound, ?_⟩
  intro x member
  rcases NameSet.mem_union.1 member with given | inSolution
  · exact declared x given
  · obtain ⟨s, inside, key⟩ := mem_boundNames.1 inSolution
    exact bound s inside x (Bindings.has_eq_true_iff.2 key)

/-- A bag that has only solutions and names of a described one. -/
theorem of_subset (describes : scope.Describes b) (solutions : m.solutions ⊆ b.solutions)
    (names : m.names = b.names) : scope.Describes m :=
  ⟨fun s inside => describes.fixed s (solutions inside),
    fun s inside => describes.bound s (solutions inside),
    fun x declared => describes.declared x (names ▸ declared)⟩

/-- A scope that fixes less and has more names. -/
theorem weaken {wider : Scope} (describes : scope.Describes b)
    (fixed : ∀ x ∈ wider.fixed, x ∈ scope.fixed) (names : ∀ x ∈ scope.names, x ∈ wider.names) :
    wider.Describes b := by
  refine ⟨?_, ?_, ?_⟩
  · intro s inside x member
    exact describes.fixed s inside x (fixed x member)
  · intro s inside x has
    exact names x (describes.bound s inside x has)
  · intro x member
    exact names x (describes.declared x member)

end Describes

end Scope

/-! ## Patterns -/

namespace Pattern

open Evaluation

theorem ensures_fetch (r : Request) : r.fetch.Ensures fun _ => True := by
  cases r with
  | scan access =>
      intro triples
      dsimp only
      split
      · trivial
      · trivial
  | exactly s p o =>
      rw [Request.fetch]
      split
      · exact fun present => trivial
      · trivial

/-- Whatever a dataset answers, the solutions found are triples read through the
pattern. -/
theorem ensures_matchGivens (fullIndexing : Bool) (p : Pattern) (givens : List Solution) :
    (p.matchGivens fullIndexing givens).Ensures fun l => ∀ s ∈ l, ∃ t, p.bind t = s := by
  induction givens with
  | nil => exact nofun
  | cons given rest ih =>
      have first : (p.matchGiven fullIndexing given).Ensures
          fun l => ∀ s ∈ l, ∃ t, p.bind t = s := by
        refine (ensures_fetch _).bind ?_
        intro triples _ s member
        obtain ⟨t, -, read⟩ := List.mem_map.1 member
        exact ⟨t, read⟩
      refine first.bind fun found here => ih.bind fun others later s member => ?_
      rcases List.mem_append.1 member with inFound | inOthers
      · exact here s inFound
      · exact later s inOthers

/-- A pattern's answer binds exactly the names of the pattern. -/
theorem ensures_evaluate (fullIndexing : Bool) (p : Pattern) (input : Bag) :
    (p.evaluate fullIndexing input).Ensures (Scope.exact p.names).Describes := by
  unfold evaluate
  by_cases ground : p.isGround = true
  · rw [if_pos ground]
    have unnamed : ∀ x, x ∉ p.names := by
      intro x member
      obtain ⟨q, here⟩ := mem_names.1 member
      obtain ⟨term, constant⟩ := isGround_iff.1 ground q
      cases here.symm.trans constant
    refine (ensures_fetch _).bind ?_
    intro triples _
    by_cases absent : triples.isEmpty = true
    · rw [if_pos absent]
      exact Scope.Describes.null _
    · rw [if_neg absent]
      exact Scope.Describes.identity unnamed
  · rw [if_neg ground]
    refine (ensures_matchGivens fullIndexing p _).bind ?_
    intro l read
    have fixed : ∀ s ∈ l, ∀ x ∈ p.names, s.has x = true := by
      intro s inside x member
      obtain ⟨t, rfl⟩ := read s inside
      exact has_bind_iff.2 member
    have bound : ∀ s ∈ l, ∀ x, s.has x = true → x ∈ (Scope.exact p.names).names := by
      intro s inside x has
      obtain ⟨t, rfl⟩ := read s inside
      exact Scope.mem_names_exact.2 (has_bind_iff.1 has)
    exact Scope.Describes.ofSolutions fixed bound fun x => Scope.mem_names_exact.2

end Pattern

/-! ## Modifiers -/

namespace Modifier

variable {scope : Scope} {b m : Bag}

theorem describes_extend {assignments : Assignments} (describes : scope.Describes b)
    (made : b.extend assignments = .ok m) :
    ((extend assignments).scope scope).Describes m := by
  rcases Bag.extend_eq_ok made with rfl | rfl
  · exact Scope.Describes.null _
  have source : ∀ t ∈ b.solutions.filterMap (extended? assignments.toList),
      ∃ s ∈ b.solutions, extendSolution assignments.toList s = .ok t := by
    intro t member
    obtain ⟨s, inside, made⟩ := List.mem_filterMap.1 member
    exact ⟨s, inside, extended?_eq_some_iff.1 made⟩
  have kept : ∀ x, x ∈ scope.names → x ∈ ((extend assignments).scope scope).names := by
    intro x member
    rw [Modifier.scope, Scope.mem_names_ofFixed]
    rcases Scope.mem_names.1 member with fixed | floating
    · exact Or.inl fixed
    · exact Or.inr (NameSet.mem_union.2 (Or.inl floating))
  have new : ∀ x, x ∈ assignments.names → x ∈ ((extend assignments).scope scope).names := by
    intro x member
    exact Scope.mem_names_ofFixed.2 (Or.inr (NameSet.mem_union.2 (Or.inr member)))
  refine Scope.Describes.ofSolutions ?_ ?_ ?_
  · intro t member x fixed
    obtain ⟨s, inside, extended⟩ := source t member
    exact (partOf_of_extendSolution extended).has (describes.fixed s inside x fixed)
  · intro t member x has
    obtain ⟨s, inside, extended⟩ := source t member
    rcases has_of_extendSolution extended has with before | assigned
    · exact kept x (describes.bound s inside x before)
    · exact new x (NameSet.mem_ofList.2 assigned)
  · intro x member
    rcases NameSet.mem_union.1 member with before | assigned
    · exact kept x (describes.declared x before)
    · exact new x assigned

theorem describes_retain (describes : scope.Describes b) (keep : Solution → Bool) :
    scope.Describes (b.retain keep) := by
  refine describes.of_subset ?_ (Bag.names_retain keep b)
  rw [Bag.solutions_retain]
  exact List.filter_subset_self _

theorem describes_distinct (describes : scope.Describes b) : scope.Describes b.distinct := by
  refine describes.of_subset ?_ (Bag.names_distinct b)
  intro s member
  rw [Bag.solutions_distinct, List.mem_eraseDups] at member
  exact member

theorem describes_project (describes : scope.Describes b) (names : List String) :
    ((project names).scope scope).Describes (b.project names) := by
  refine ⟨?_, ?_, ?_⟩
  · intro t member x inFixed
    rw [Bag.solutions_project] at member
    obtain ⟨s, inside, rfl⟩ := List.mem_map.1 member
    obtain ⟨fixed, listed⟩ := NameSet.mem_inter.1 inFixed
    have before := describes.fixed s inside x fixed
    simpa [Solution.project, Bindings.has, NameSet.mem_ofList.1 listed] using before
  · intro t member x has
    rw [Bag.solutions_project] at member
    obtain ⟨s, -, rfl⟩ := List.mem_map.1 member
    refine Scope.mem_names_ofFixed.2 (Or.inr (NameSet.mem_ofList.2 ?_))
    by_cases listed : x ∈ names
    · exact listed
    · simp [Solution.project, Bindings.has, listed] at has
  · intro x member
    refine Scope.mem_names_ofFixed.2 (Or.inr ?_)
    cases b with
    | null => cases member
    | identity => cases member
    | regular declared solutions => exact member

theorem describes_slice (describes : scope.Describes b) (offset : Nat) (limit : Option Nat) :
    scope.Describes (b.slice offset limit) := by
  refine describes.of_subset ?_ (Bag.names_slice offset limit b)
  intro s member
  rw [Bag.solutions_slice] at member
  cases limit with
  | none => exact List.mem_of_mem_drop member
  | some count => exact List.mem_of_mem_drop (List.mem_of_mem_take member)

/-- A modifier's scope describes what the modifier makes of a described answer. -/
theorem describes_apply {modifier : Modifier} (describes : scope.Describes b)
    (applied : modifier.apply b = .ok m) : (modifier.scope scope).Describes m := by
  cases modifier with
  | extend assignments => exact describes_extend describes applied
  | filter condition =>
      cases applied
      exact describes_retain describes _
  | distinct =>
      cases applied
      exact describes_distinct describes
  | project names =>
      cases applied
      exact describes_project describes names
  | slice offset limit =>
      cases applied
      exact describes_slice describes offset limit

end Modifier

/-! ## Combinators -/

/-- A solution of an optional join is a left solution or a merge of one. -/
theorem Bag.of_mem_optionalMatches {accept : Solution → Bool} {left right : List Solution}
    {t : Solution} (member : t ∈ optionalMatches accept left right) :
    ∃ s ∈ left, t = s ∨ ∃ u ∈ right, s.merge u = some t := by
  obtain ⟨s, inside, made⟩ := List.mem_flatMap.1 member
  refine ⟨s, inside, ?_⟩
  dsimp only at made
  split at made
  · exact Or.inl (List.mem_singleton.1 made)
  · exact Or.inr (List.mem_filterMap.1 (List.mem_filter.1 made).1)

/-- What a join declares, one of its sides declares or one of its solutions binds. -/
theorem Bag.of_mem_names_join {a b : Bag} {x : String} (member : x ∈ (a.join b).names) :
    x ∈ a.names ∨ x ∈ b.names ∨ ∃ s ∈ (a.join b).solutions, s.has x = true := by
  cases a with
  | null => cases member
  | identity =>
      cases b with
      | null => cases member
      | identity => cases member
      | regular names solutions => exact Or.inr (Or.inl member)
  | regular names solutions =>
      cases b with
      | null => cases member
      | identity => exact Or.inl member
      | regular names' solutions' =>
          rcases NameSet.mem_union.1 member with given | inSolution
          · rcases NameSet.mem_union.1 given with left | right
            · exact Or.inl left
            · exact Or.inr (Or.inl right)
          · obtain ⟨s, inside, key⟩ := mem_boundNames.1 inSolution
            exact Or.inr (Or.inr ⟨s, inside, Bindings.has_eq_true_iff.2 key⟩)

namespace Combinator

variable {s t : Scope} {a b : Bag}

theorem describes_join (onLeft : s.Describes a) (onRight : t.Describes b) :
    (join.scope s t).Describes (a.join b) := by
  have made : ∀ c ∈ (a.join b).solutions,
      ∃ u ∈ a.solutions, ∃ v ∈ b.solutions, u.merge v = some c := by
    intro c member
    rw [Bag.solutions_join] at member
    exact Bag.mem_nestedLoop.1 member
  have names : ∀ x, x ∈ s.names ∨ x ∈ t.names → x ∈ (join.scope s t).names := by
    intro x member
    rw [scope, Scope.mem_names_ofFixed]
    simp only [Scope.mem_names, NameSet.mem_union] at member ⊢
    tauto
  have bound : ∀ c ∈ (a.join b).solutions, ∀ x, c.has x = true → x ∈ (join.scope s t).names := by
    intro c member x has
    obtain ⟨u, inA, v, inB, merged⟩ := made c member
    refine names x ?_
    rcases (Solution.has_of_merge merged x).1 has with left | right
    · exact Or.inl (onLeft.bound u inA x left)
    · exact Or.inr (onRight.bound v inB x right)
  refine ⟨?_, bound, ?_⟩
  · intro c member x inFixed
    obtain ⟨u, inA, v, inB, merged⟩ := made c member
    refine (Solution.has_of_merge merged x).2 ?_
    rcases NameSet.mem_union.1 inFixed with left | right
    · exact Or.inl (onLeft.fixed u inA x left)
    · exact Or.inr (onRight.fixed v inB x right)
  · intro x member
    rcases Bag.of_mem_names_join member with left | right | ⟨c, inside, has⟩
    · exact names x (Or.inl (onLeft.declared x left))
    · exact names x (Or.inr (onRight.declared x right))
    · exact bound c inside x has

theorem describes_leftJoin (filter : Option Expr) (onLeft : s.Describes a)
    (onRight : t.Describes b) :
    ((leftJoin filter).scope s t).Describes (a.leftJoin b (Expr.accepts filter)) := by
  have names : ∀ x, x ∈ s.names ∨ x ∈ t.names → x ∈ ((leftJoin filter).scope s t).names := by
    intro x member
    rw [scope, Scope.mem_names_ofFixed]
    simp only [Scope.mem_names, NameSet.mem_union] at member ⊢
    tauto
  have ofMatches : ((leftJoin filter).scope s t).Describes
      (.ofSolutions (a.names ∪ b.names)
        (Bag.optionalMatches (Expr.accepts filter) a.solutions b.solutions)) := by
    refine Scope.Describes.ofSolutions ?_ ?_ ?_
    · intro c member x inFixed
      obtain ⟨u, inA, rfl | ⟨v, -, merged⟩⟩ := Bag.of_mem_optionalMatches member
      · exact onLeft.fixed _ inA x inFixed
      · exact (Solution.has_of_merge merged x).2 (Or.inl (onLeft.fixed u inA x inFixed))
    · intro c member x has
      refine names x ?_
      obtain ⟨u, inA, rfl | ⟨v, inB, merged⟩⟩ := Bag.of_mem_optionalMatches member
      · exact Or.inl (onLeft.bound _ inA x has)
      · rcases (Solution.has_of_merge merged x).1 has with left | right
        · exact Or.inl (onLeft.bound u inA x left)
        · exact Or.inr (onRight.bound v inB x right)
    · intro x member
      refine names x ?_
      rcases NameSet.mem_union.1 member with left | right
      · exact Or.inl (onLeft.declared x left)
      · exact Or.inr (onRight.declared x right)
  cases a with
  | null => exact Scope.Describes.null _
  | identity => exact ofMatches
  | regular names solutions => exact ofMatches

theorem describes_union (onLeft : s.Describes a) (onRight : t.Describes b) :
    (union.scope s t).Describes (a.union b) := by
  have onlyLeft : (union.scope s t).Describes a := by
    refine onLeft.weaken ?_ ?_
    · intro x member
      exact (NameSet.mem_inter.1 member).1
    · intro x member
      exact Scope.mem_names_ofFixed.2 (Or.inr (NameSet.mem_union.2 (Or.inl member)))
  have onlyRight : (union.scope s t).Describes b := by
    refine onRight.weaken ?_ ?_
    · intro x member
      exact (NameSet.mem_inter.1 member).2
    · intro x member
      exact Scope.mem_names_ofFixed.2 (Or.inr (NameSet.mem_union.2 (Or.inr member)))
  have both : (union.scope s t).Describes
      (.ofSolutions (a.names ∪ b.names) (a.solutions ++ b.solutions)) := by
    refine Scope.Describes.ofSolutions ?_ ?_ ?_
    · intro c member
      rcases List.mem_append.1 member with left | right
      · exact onlyLeft.fixed c left
      · exact onlyRight.fixed c right
    · intro c member
      rcases List.mem_append.1 member with left | right
      · exact onlyLeft.bound c left
      · exact onlyRight.bound c right
    · intro x member
      rcases NameSet.mem_union.1 member with left | right
      · exact onlyLeft.declared x left
      · exact onlyRight.declared x right
  cases a with
  | null => exact onlyRight
  | identity =>
      cases b with
      | null => exact onlyLeft
      | identity => exact both
      | regular names solutions => exact both
  | regular names solutions =>
      cases b with
      | null => exact onlyLeft
      | identity => exact both
      | regular names' solutions' => exact both

/-- A combinator's scope describes what the combinator makes of described answers. -/
theorem describes_apply (combinator : Combinator) (onLeft : s.Describes a)
    (onRight : t.Describes b) : (combinator.scope s t).Describes (combinator.apply a b) := by
  cases combinator with
  | join => exact describes_join onLeft onRight
  | leftJoin filter => exact describes_leftJoin filter onLeft onRight
  | union => exact describes_union onLeft onRight
  | semiJoin mustExist =>
      exact Modifier.describes_retain onLeft fun c => b.solutions.any c.compatible == mustExist
  | minus =>
      exact Modifier.describes_retain onLeft fun c =>
        !b.solutions.any fun d => c.sharesVariable d && c.compatible d

end Combinator

/-! ## Queries -/

theorem ensures_evaluateChain (fullIndexing : Bool) (ps : List Pattern) {names : NameSet}
    {answer : Bag} (describes : (Scope.exact names).Describes answer) :
    (evaluateChain fullIndexing answer ps).Ensures
      (Scope.exact (names ∪ ps.foldr (fun p all => p.names ∪ all) ∅)).Describes := by
  induction ps generalizing names answer with
  | nil =>
      have same : names ∪ ∅ = names := NameSet.ext_mem fun x => by simp
      rw [List.foldr_nil, same]
      exact describes
  | cons p rest ih =>
      have same : names ∪ (p.names ∪ rest.foldr (fun p all => p.names ∪ all) ∅) =
          (names ∪ p.names) ∪ rest.foldr (fun p all => p.names ∪ all) ∅ :=
        NameSet.ext_mem fun x => by simp [or_assoc]
      rw [evaluateChain, List.foldr_cons, same]
      split
      · exact Scope.Describes.null _
      · refine (p.ensures_evaluate fullIndexing answer).checked.bind ?_
        intro found onRight
        have joined := Combinator.describes_join describes onRight
        rw [Scope.join_exact] at joined
        exact (Evaluation.Ensures.pure joined).checked.bind fun next here => ih here

namespace Algebra

open Evaluation

/-- **The scope of a query describes every answer**, whatever its input and whatever the
dataset answers. -/
theorem ensures_evaluate (fullIndexing : Bool) (a : Algebra) (input : Bag) :
    (a.evaluate fullIndexing input).Ensures a.scope.Describes := by
  induction a generalizing input with
  | pattern p => exact (p.ensures_evaluate fullIndexing input).checked
  | bgp ps =>
      cases ps with
      | nil =>
          exact Scope.Describes.identity NameSet.not_mem_empty
      | cons p rest =>
          exact (p.ensures_evaluate fullIndexing input).checked.bind fun answer here =>
            ensures_evaluateChain fullIndexing rest here
  | modify modifier inner ih =>
      refine (ih _).checked.bind ?_
      intro answer below
      have applied : (Evaluation.ofExcept (modifier.apply answer)).Ensures
          (modifier.scope inner.scope).Describes := by
        cases outcome : modifier.apply answer with
        | error e => trivial
        | ok m => exact Modifier.describes_apply below outcome
      exact applied.checked
  | combine combinator left right ihLeft ihRight =>
      refine (ihLeft _).checked.bind ?_
      intro l onLeft
      split
      · exact Scope.Describes.null _
      · refine (ihRight _).checked.bind ?_
        intro r onRight
        exact (Ensures.pure (Combinator.describes_apply combinator onLeft onRight)).checked

theorem scope_disjoint (a : Algebra) : a.scope.fixed.disjoint a.scope.floating = true := by
  induction a with
  | pattern p => exact NameSet.disjoint_eq_true_iff.2 fun x _ => NameSet.not_mem_empty x
  | bgp ps => exact NameSet.disjoint_eq_true_iff.2 fun x _ => NameSet.not_mem_empty x
  | modify modifier inner ih =>
      cases modifier with
      | extend assignments => exact Scope.ofFixed_disjoint _ _
      | project names => exact Scope.ofFixed_disjoint _ _
      | filter condition => exact ih
      | distinct => exact ih
      | slice offset limit => exact ih
  | combine combinator left right ihLeft ihRight =>
      cases combinator with
      | join => exact Scope.ofFixed_disjoint _ _
      | leftJoin filter => exact Scope.ofFixed_disjoint _ _
      | union => exact Scope.ofFixed_disjoint _ _
      | semiJoin mustExist => exact ihLeft
      | minus => exact ihLeft

/-- **The scope is sound.**  Whatever is asked, of whatever dataset and under whatever
input, every solution of an answer binds the fixed names of the query and no name
outside its scope, and the answer declares no other name.  The two parts of a scope are
disjoint and make up its names. -/
theorem answer_within_scope (a : Algebra) (d : Dataset) (config : Config) (clock : Clock)
    (input : Bag) :
    (∀ m, (a.answer d config clock input).result = .ok m →
      (∀ s ∈ m.solutions, (∀ x ∈ a.scope.fixed, s.has x = true) ∧
        ∀ x, s.has x = true → x ∈ a.scope.names) ∧
      ∀ x ∈ m.names, x ∈ a.scope.names) ∧
    a.scope.fixed.disjoint a.scope.floating = true ∧
    ∀ x, x ∈ a.scope.names ↔ x ∈ a.scope.fixed ∨ x ∈ a.scope.floating := by
  refine ⟨?_, scope_disjoint a, fun x => Scope.mem_names⟩
  intro m ended
  have describes : a.scope.Describes m :=
    (ensures_evaluate config.fullIndexing a input).of_run ended
  exact ⟨fun s inside => ⟨describes.fixed s inside, describes.bound s inside⟩,
    describes.declared⟩

/-- Both people are answered, with the names that the scope fixes; one of them binds no
more. -/
theorem answer_within_scope_directory :
    ∃ m, (Sample.directory.answer (Dataset.listing Sample.facts) {} {} .identity).result = .ok m ∧
      m.solutions.map (·.has "listed") = [true, false] ∧ ∀ s ∈ m.solutions, s.has "who" = true := by
  refine ⟨_, rfl, rfl, ?_⟩
  intro s inside
  have sound := answer_within_scope Sample.directory (Dataset.listing Sample.facts) {} {} .identity
  exact ((sound.1 _ rfl).1 s inside).1 "who" (by decide)

end Algebra

end TripleAlgebra
