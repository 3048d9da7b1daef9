/-
# TripleAlgebra.Proofs.Algebra.Rearrangement -- order is not seen by a query without slices

Order occurs in many places inside an evaluation: triples have slots, an index lists them, an
input is asked about from its first solution on, `distinct` keeps the occurrence it meets
first.  None of this shows in an answer but in the order of its solutions, as long as no
slice cuts it.

The proof follows two evaluations side by side, over the same triples and under the same
input but for order and repetition (`agreeUpToOrder_evaluate`).  Their answers are rearranged
at every node, so what is the input of one right child is that of the other, again but for
order.  A conflict is found in both or in neither, because it is a single solution that
cannot be extended; which one is met first, and in which place, does depend on the order
(`AgreeUpToOrder`).
-/
import TripleAlgebra.Proofs.Algebra.Narrowing
import TripleAlgebra.Proofs.Bag.Rearrangement

namespace TripleAlgebra

set_option autoImplicit false

/-! ## Queries without slices -/

def Modifier.isSlice : Modifier → Bool
  | slice _ _ => true
  | _ => false

/-- No node of the query is a slice. -/
def Algebra.sliceFree : Algebra → Bool
  | pattern _ => true
  | bgp _ => true
  | modify modifier inner => !modifier.isSlice && inner.sliceFree
  | combine _ left right => left.sliceFree && right.sliceFree

/-! ## Operators -/

/-- A combinator sees of its children's answers no order. -/
theorem Combinator.rearranged_apply (combinator : Combinator) {b b' c c' : Bag}
    (onLeft : b.Rearranged c) (onRight : b'.Rearranged c') :
    (combinator.apply b b').Rearranged (combinator.apply c c') := by
  cases combinator with
  | join => exact onLeft.join onRight
  | leftJoin filter => exact onLeft.leftJoin onRight _
  | union => exact onLeft.union onRight
  | semiJoin mustExist => exact onLeft.semiJoin onRight mustExist
  | minus => exact onLeft.minus onRight

/-! ## Answers that may be a conflict -/

/-- Two answers are rearranged, or both are a conflict, not necessarily the same one. -/
inductive AgreeUpToOrder : Except EvaluationError Bag → Except EvaluationError Bag → Prop where
  | ok {b c : Bag} (same : b.Rearranged c) : AgreeUpToOrder (.ok b) (.ok c)
  | conflict (x : String) (i : Nat) (y : String) (j : Nat) :
      AgreeUpToOrder (.error (.rebinding x i)) (.error (.rebinding y j))

theorem AgreeUpToOrder.bind {u v : Except EvaluationError Bag}
    {f g : Bag → Except EvaluationError Bag} (first : AgreeUpToOrder u v)
    (next : ∀ b c, b.Rearranged c → AgreeUpToOrder (f b) (g c)) :
    AgreeUpToOrder (u >>= f) (v >>= g) := by
  cases first with
  | ok same => exact next _ _ same
  | conflict x i y j => exact conflict x i y j

theorem AgreeUpToOrder.ok_or_conflict {u v : Except EvaluationError Bag}
    (agree : AgreeUpToOrder u v) :
    (∃ b c, u = .ok b ∧ v = .ok c ∧ b.Rearranged c) ∨
      ∃ x i y j, u = .error (.rebinding x i) ∧ v = .error (.rebinding y j) := by
  cases agree with
  | ok same => exact Or.inl ⟨_, _, rfl, rfl, same⟩
  | conflict x i y j => exact Or.inr ⟨x, i, y, j, rfl, rfl⟩

/-- Solutions can be extended in every order or in none. -/
theorem agreeUpToOrder_extendSolutions (assignments : List Assignment) (index : Nat)
    (names : NameSet) {l m : List Solution} (perm : l.Perm m) :
    AgreeUpToOrder ((extendSolutions assignments index l).map (.ofSolutions names))
      ((extendSolutions assignments index m).map (.ofSolutions names)) := by
  -- whether all can be extended is asked of the members, so it has one answer for both lists
  have together := extendSolutions_isOk_iff assignments index
  cases first : extendSolutions assignments index l with
  | ok out =>
      obtain ⟨out', second⟩ := (together m).2 fun s member =>
        (together l).1 ⟨out, first⟩ s (perm.mem_iff.2 member)
      rw [second, ← extendSolutions_eq_ok first, ← extendSolutions_eq_ok second]
      exact .ok (.ofSolutions names (perm.filterMap _))
  | error e =>
      obtain ⟨x, i, rfl⟩ := rebinding_of_extendSolutions first
      cases second : extendSolutions assignments index m with
      | ok out =>
          obtain ⟨out', first'⟩ := (together l).2 fun s member =>
            (together m).1 ⟨out, second⟩ s (perm.mem_iff.1 member)
          cases first.symm.trans first'
      | error e' =>
          obtain ⟨y, j, rfl⟩ := rebinding_of_extendSolutions second
          exact .conflict x i y j

/-- A modifier that is no slice sees of its child's answer no order. -/
theorem Modifier.agreeUpToOrder_apply {modifier : Modifier} (noSlice : modifier.isSlice = false)
    {b c : Bag} (same : b.Rearranged c) :
    AgreeUpToOrder (modifier.apply b) (modifier.apply c) := by
  cases modifier with
  | extend assignments =>
      cases same with
      | identity => exact agreeUpToOrder_extendSolutions _ _ _ (List.Perm.refl _)
      | null => exact .ok .null
      | regular names perm => exact agreeUpToOrder_extendSolutions _ _ _ perm
  | filter condition => exact .ok (same.retain _)
  | distinct => exact .ok same.distinct
  | project names => exact .ok (same.project names)
  | slice offset limit => cases noSlice

/-! ## Patterns -/

variable {triples triples' : List Triple} {input input' : Bag}

namespace Pattern

/-- The combinations to ask for do not depend on the order of the input. -/
theorem perm_givens (p : Pattern) (same : input.SameSolutions input') :
    (p.givens input).Perm (p.givens input') := by
  have narrowed : p.narrowed input = p.narrowed input' := by
    unfold Pattern.narrowed
    rw [same.fixed]
  simp only [givens, narrowed]
  split
  · exact List.Perm.refl _
  · refine perm_eraseDups ?_
    intro given
    simp only [List.mem_map, same.mem]

theorem perm_meaning (p : Pattern) (perm : triples.Perm triples') :
    (p.meaning triples).Perm (p.meaning triples') := by
  unfold meaning
  rw [perm.any_eq]
  split
  · exact List.Perm.refl _
  · exact (perm.filter _).map _

theorem rearranged_answer (p : Pattern) (perm : triples.Perm triples')
    (same : input.SameSolutions input') :
    (p.answer triples input).Rearranged (p.answer triples' input') := by
  unfold answer
  rw [perm.any_eq]
  split
  · split
    · exact .identity
    · exact .null
  · refine .ofSolutions _ ((p.perm_givens same).flatMap ?_)
    intro given _
    exact (p.perm_meaning perm).filter _

end Pattern

/-! ## Chains of patterns -/

/-- Chains that start from rearranged answers end in rearranged ones. -/
theorem agreeUpToOrder_evaluateChain (nodup : triples.Nodup) (perm : triples.Perm triples')
    (fullIndexing : Bool) (ps : List Pattern) {answer answer' : Bag}
    (same : answer.Rearranged answer') :
    AgreeUpToOrder
      ((evaluateChain fullIndexing answer ps).outcome (Dataset.listing triples))
      ((evaluateChain fullIndexing answer' ps).outcome (Dataset.listing triples')) := by
  induction ps generalizing answer answer' with
  | nil => exact .ok same
  | cons p rest ih =>
      by_cases done : answer.isEmpty = true
      · rw [evaluateChain, evaluateChain, if_pos done, if_pos (same.isEmpty ▸ done)]
        exact .ok .null
      · rw [outcome_evaluateChain_cons nodup fullIndexing p rest done,
          outcome_evaluateChain_cons (perm.nodup_iff.1 nodup) fullIndexing p rest
            (same.isEmpty ▸ done)]
        exact ih (same.join (p.rearranged_answer perm same.sameSolutions))

/-! ## Queries -/

namespace Algebra

/-- Inputs of the same solutions are handed on as such. -/
theorem sameSolutions_innerInput (modifier : Modifier) (same : input.SameSolutions input') :
    (modifier.innerInput input).SameSolutions (modifier.innerInput input') := by
  cases modifier with
  | project names => exact Bag.Rearranged.identity.sameSolutions
  | slice offset limit => exact Bag.Rearranged.identity.sameSolutions
  | extend assignments => exact same
  | filter condition => exact same
  | distinct => exact same

theorem sameSolutions_leftInput (combinator : Combinator) (left right : Algebra)
    (same : input.SameSolutions input') :
    (combinator.leftInput left right input).SameSolutions
      (combinator.leftInput left right input') := by
  cases combinator with
  | union =>
      simp only [Combinator.leftInput]
      split
      · exact Bag.Rearranged.identity.sameSolutions
      · exact same
  | join => exact same
  | leftJoin filter => exact same
  | semiJoin mustExist => exact same
  | minus => exact same

theorem sameSolutions_rightInput (combinator : Combinator) (left right : Algebra)
    (same : input.SameSolutions input') {l l' : Bag} (answers : l.Rearranged l') :
    (combinator.rightInput left right input l).SameSolutions
      (combinator.rightInput left right input' l') := by
  cases combinator with
  | union => exact sameSolutions_leftInput .union left right same
  | join => exact answers.sameSolutions
  | leftJoin filter =>
      simp only [Combinator.rightInput, same.names]
      split
      · exact answers.sameSolutions
      · exact Bag.Rearranged.identity.sameSolutions
  | semiJoin mustExist => exact answers.sameSolutions
  | minus => exact Bag.Rearranged.identity.sameSolutions

/-- **Two evaluations of a query without slices agree up to order**, if their triples and
their inputs do. -/
theorem agreeUpToOrder_evaluate (nodup : triples.Nodup) (perm : triples.Perm triples')
    {a : Algebra} (free : a.sliceFree = true) (fullIndexing : Bool)
    (same : input.SameSolutions input') :
    AgreeUpToOrder ((a.evaluate fullIndexing input).outcome (Dataset.listing triples))
      ((a.evaluate fullIndexing input').outcome (Dataset.listing triples')) := by
  have nodup' := perm.nodup_iff.1 nodup
  -- two inputs, not one: a right child is given the two left answers, which are rearranged only
  induction a generalizing input input' with
  | pattern p =>
      rw [outcome_pattern nodup, outcome_pattern nodup']
      exact .ok (p.rearranged_answer perm same)
  | bgp ps =>
      cases ps with
      | nil => exact .ok .identity
      | cons p rest =>
          rw [evaluate, evaluate, outcome_evaluateBgp_cons nodup, outcome_evaluateBgp_cons nodup']
          exact agreeUpToOrder_evaluateChain nodup perm fullIndexing rest
            (p.rearranged_answer perm same)
  | modify modifier inner ih =>
      obtain ⟨here, below⟩ := Bool.and_eq_true_iff.1 free
      have noSlice : modifier.isSlice = false := by simpa using here
      rw [outcome_modify, outcome_modify]
      exact (ih below (sameSolutions_innerInput modifier same)).bind
        fun b c answers => Modifier.agreeUpToOrder_apply noSlice answers
  | combine combinator left right ihLeft ihRight =>
      obtain ⟨onLeft, onRight⟩ := Bool.and_eq_true_iff.1 free
      rw [outcome_combine, outcome_combine]
      refine (ihLeft onLeft (sameSolutions_leftInput combinator left right same)).bind ?_
      intro l l' answers
      rw [answers.isEmpty]
      split
      · exact .ok .null
      · refine (ihRight onRight
          (sameSolutions_rightInput combinator left right same answers)).bind ?_
        intro r r' found
        exact .ok (combinator.rearranged_apply answers found)

/-- **Answers do not depend on insertion order or on the arrangement of the input.**  Over
datasets into which the same triples were inserted, in any order and any number of times,
and under inputs with the same names and the same solutions, in any order and any number of
times, a query without slices has rearranged answers, or ends in a conflict both times. -/
theorem answer_rearranged {a : Algebra} (free : a.sliceFree = true)
    {inserted inserted' : List Triple} (sameTriples : ∀ t, t ∈ inserted ↔ t ∈ inserted')
    {given given' : List Solution} (sameSolutions : ∀ s, s ∈ given ↔ s ∈ given')
    (names : NameSet) (fullIndexing : Bool) (clock clock' : Clock) :
    let first := (a.answer (Store.ofTriples inserted).dataset ⟨fullIndexing, none⟩ clock
      (.regular names given)).result
    let second := (a.answer (Store.ofTriples inserted').dataset ⟨fullIndexing, none⟩ clock'
      (.regular names given')).result
    (∃ b c, first = .ok b ∧ second = .ok c ∧ b.Rearranged c) ∨
      ∃ x i y j, first = .error (.rebinding x i) ∧ second = .error (.rebinding y j) := by
  have sameInput : (Bag.regular names given).SameSolutions (.regular names given') :=
    ⟨rfl, sameSolutions⟩
  have agree := agreeUpToOrder_evaluate (nodup_eraseDups inserted) (perm_eraseDups sameTriples)
    free fullIndexing sameInput
  rw [Store.dataset_ofTriples, Store.dataset_ofTriples, result_answer, result_answer]
  exact agree.ok_or_conflict

/-- Two people are looked up, one before the other or after, in a directory filled from the
first entry on or from the last.  The same two entries are found, in the order of the
input. -/
theorem answer_rearranged_directory :
    let answer (inserted : List Triple) (given : List Solution) :=
      (Sample.directory.answer (Store.ofTriples inserted).dataset ⟨true, none⟩ {}
        (.regular (.ofList ["who"]) given)).result
    ∃ b c, answer Sample.facts [Sample.person "ann", Sample.person "bob"] = .ok b ∧
      answer (Sample.facts.reverse ++ Sample.facts)
        [Sample.person "bob", Sample.person "ann", Sample.person "bob"] = .ok c ∧
      b.solutions.map (·.get? "who") = [some (.iri "ann"), some (.iri "bob")] ∧
      c.solutions.map (·.get? "who") = [some (.iri "bob"), some (.iri "ann")] ∧
      b.Rearranged c := by
  intro answer
  have sameTriples : ∀ t, t ∈ Sample.facts ↔ t ∈ Sample.facts.reverse ++ Sample.facts := by
    simp
  have sameSolutions : ∀ s, s ∈ [Sample.person "ann", Sample.person "bob"] ↔
      s ∈ [Sample.person "bob", Sample.person "ann", Sample.person "bob"] := by
    simp [or_comm]
  obtain ⟨b, first, inOrder⟩ : ∃ b,
      answer Sample.facts [Sample.person "ann", Sample.person "bob"] = .ok b ∧
        b.solutions.map (·.get? "who") = [some (.iri "ann"), some (.iri "bob")] := by
    dsimp only [answer]
    rw [Store.dataset_ofTriples]
    exact ⟨_, rfl, rfl⟩
  obtain ⟨c, second, reversed⟩ : ∃ c,
      answer (Sample.facts.reverse ++ Sample.facts)
          [Sample.person "bob", Sample.person "ann", Sample.person "bob"] = .ok c ∧
        c.solutions.map (·.get? "who") = [some (.iri "bob"), some (.iri "ann")] := by
    dsimp only [answer]
    rw [Store.dataset_ofTriples]
    exact ⟨_, rfl, rfl⟩
  have agree := answer_rearranged (a := Sample.directory) rfl sameTriples sameSolutions
    (.ofList ["who"]) true {} {}
  rcases agree with ⟨b', c', first', second', same⟩ | ⟨x, i, y, j, conflict, -⟩
  · obtain rfl := Except.ok.inj (first.symm.trans first')
    obtain rfl := Except.ok.inj (second.symm.trans second')
    exact ⟨b, c, first, second, inOrder, reversed, same⟩
  · cases first.symm.trans conflict

end Algebra

end TripleAlgebra
