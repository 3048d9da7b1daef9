/-
# TripleAlgebra.Proofs.Algebra.Assignment -- what assignments make of a solution

From what one assignment makes of a solution follow what a list of them makes of it (`MadeBy`) and
where it meets its first conflict (`FirstConflict`), one or the other of every solution.  Extending
a bag is that and nothing else: it ends with what the assignments make of every solution, or with
the first solution that meets a conflict, by its place and by the variable of the assignment
(`extendSolutions_eq_ok_iff`, `extendSolutions_eq_error_iff`).

An assignment looks at the names of its expression and at its own variable, and changes nothing but
its variable.  Two assignments neither of which reads or binds what the other binds may therefore
change places (`Assignment.Independent.swap`); where there is a conflict, there is still one in the
same solution, though maybe another.
-/
import Mathlib.Data.List.Forall2
import TripleAlgebra.Proofs.Algebra.Extension
import TripleAlgebra.Proofs.Expression.Reading

namespace TripleAlgebra

set_option autoImplicit false

/-! ## One assignment -/

namespace Assignment

variable {a b : Assignment} {s t u : Solution}

/-- The assignment changes its own variable only. -/
theorem Makes.get?_of_ne (made : a.Makes s t) {x : String} (other : x ≠ a.name) :
    t.get? x = s.get? x := by
  cases made with
  | nothing => rfl
  | again => rfl
  | binding yields free => rw [Bindings.get?_insert, if_neg other]

/-- Of a solution that agrees on what the assignment looks at, it makes the like. -/
theorem Makes.of_agree (made : a.Makes s t) (reads : ∀ x ∈ a.value.names, u.get? x = s.get? x)
    (own : u.get? a.name = s.get? a.name) :
    ∃ v, a.Makes u v ∧ v.get? a.name = t.get? a.name := by
  have value := Expr.evaluate_congr reads
  cases made with
  | nothing failed => exact ⟨u, .nothing (value.trans failed), own⟩
  | again yields bound => exact ⟨u, .again (value.trans yields) (own.trans bound), own⟩
  | binding yields free =>
      refine ⟨_, .binding (value.trans yields) (own.trans free), ?_⟩
      rw [Bindings.get?_insert, Bindings.get?_insert, if_pos rfl, if_pos rfl]

/-- Neither assignment reads or binds the variable of the other. -/
structure Independent (a b : Assignment) : Prop where
  names : a.name ≠ b.name
  unread : a.name ∉ b.value.names
  unread' : b.name ∉ a.value.names

theorem Independent.symm (independent : a.Independent b) : b.Independent a :=
  ⟨independent.names.symm, independent.unread', independent.unread⟩

/-- A solution made by an assignment is as good as before to an independent one. -/
theorem Independent.of_agree (independent : a.Independent b) (made : a.Makes s t) :
    (∀ x ∈ b.value.names, t.get? x = s.get? x) ∧ t.get? b.name = s.get? b.name := by
  refine ⟨?_, made.get?_of_ne independent.names.symm⟩
  intro x read
  refine made.get?_of_ne ?_
  rintro rfl
  exact independent.unread read

/-- **Independent assignments may change places.** -/
theorem Independent.swap (independent : a.Independent b) (first : a.Makes s t)
    (second : b.Makes t u) : ∃ v, b.Makes s v ∧ a.Makes v u := by
  obtain ⟨reads, own⟩ := independent.of_agree first
  obtain ⟨v, early, atB⟩ :=
    second.of_agree (fun x read => (reads x read).symm) own.symm
  obtain ⟨reads', own'⟩ := independent.symm.of_agree early
  obtain ⟨w, late, atA⟩ := first.of_agree reads' own'
  -- both ways lead to the solution with the two variables as they were made, and all else as it was
  have same : w = u := by
    refine Bindings.ext_get? ?_
    intro x
    by_cases here : x = a.name
    · subst here
      rw [atA, second.get?_of_ne independent.names]
    · rw [late.get?_of_ne here]
      by_cases there : x = b.name
      · subst there
        exact atB
      · rw [early.get?_of_ne there, second.get?_of_ne there, first.get?_of_ne here]
  exact ⟨v, early, same ▸ late⟩

end Assignment

/-! ## One assignment after the other -/

/-- What the assignments make of a solution, each of what those before it have made. -/
inductive MadeBy : List Assignment → Solution → Solution → Prop where
  | nil (s : Solution) : MadeBy [] s s
  | cons {a : Assignment} {rest : List Assignment} {s middle t : Solution}
      (first : a.Makes s middle) (later : MadeBy rest middle t) : MadeBy (a :: rest) s t

/-- The name belongs to the first of the assignments that conflicts with what those before it have
made. -/
def FirstConflict (assignments : List Assignment) (s : Solution) (name : String) : Prop :=
  ∃ before a after middle, assignments = before ++ a :: after ∧ MadeBy before s middle ∧
    a.Conflicts middle ∧ a.name = name

variable {a b : Assignment} {assignments before after : List Assignment} {s t : Solution}
  {name : String}

theorem madeBy_cons :
    MadeBy (a :: assignments) s t ↔ ∃ middle, a.Makes s middle ∧ MadeBy assignments middle t := by
  constructor
  · rintro (_ | ⟨first, later⟩)
    exact ⟨_, first, later⟩
  · rintro ⟨middle, first, later⟩
    exact .cons first later

theorem madeBy_append :
    MadeBy (before ++ after) s t ↔ ∃ middle, MadeBy before s middle ∧ MadeBy after middle t := by
  induction before generalizing s with
  | nil =>
      constructor
      · intro made
        exact ⟨s, .nil s, made⟩
      · rintro ⟨_, ⟨⟩, made⟩
        exact made
  | cons a rest ih =>
      rw [List.cons_append, madeBy_cons]
      simp only [ih, madeBy_cons]
      constructor
      · rintro ⟨middle, first, next, later, last⟩
        exact ⟨next, ⟨middle, first, later⟩, last⟩
      · rintro ⟨next, ⟨middle, first, later⟩, last⟩
        exact ⟨middle, first, next, later, last⟩

theorem firstConflict_cons :
    FirstConflict (a :: assignments) s name ↔
      (a.Conflicts s ∧ a.name = name) ∨
        ∃ middle, a.Makes s middle ∧ FirstConflict assignments middle name := by
  constructor
  · rintro ⟨before, c, after, last, split, made, conflict, named⟩
    cases made with
    | nil =>
        obtain ⟨rfl, rfl⟩ := List.cons.inj split
        exact Or.inl ⟨conflict, named⟩
    | cons first later =>
        obtain ⟨rfl, rest⟩ := List.cons.inj split
        exact Or.inr ⟨_, first, _, c, after, last, rest, later, conflict, named⟩
  · rintro (⟨conflict, named⟩ | ⟨middle, first, before, c, after, last, rfl, made, here⟩)
    · exact ⟨[], a, assignments, s, rfl, .nil s, conflict, named⟩
    · exact ⟨a :: before, c, after, last, rfl, .cons first made, here⟩

/-- **A solution is extended to what the assignments make of it.** -/
theorem extendSolution_eq_ok_iff :
    extendSolution assignments s = .ok t ↔ MadeBy assignments s t := by
  induction assignments generalizing s with
  | nil =>
      constructor
      · rintro ⟨⟩
        exact .nil _
      · rintro ⟨⟩
        rfl
  | cons a rest ih =>
      rw [extendSolution_cons_eq_ok, madeBy_cons]
      simp only [ih]

/-- **It cannot be extended where there is a first conflict.** -/
theorem extendSolution_eq_error_iff :
    extendSolution assignments s = .error name ↔ FirstConflict assignments s name := by
  induction assignments generalizing s with
  | nil =>
      constructor
      · rintro ⟨⟩
      · rintro ⟨before, a, after, middle, split, -⟩
        simp at split
  | cons a rest ih =>
      rw [firstConflict_cons, ← Assignment.apply?_eq_none_iff]
      simp only [← Assignment.apply?_eq_some_iff, ← ih, extendSolution]
      cases a.apply? s <;> simp

/-- Of every solution there is a first conflict or something that the assignments make of it. -/
theorem exists_firstConflict_iff (assignments : List Assignment) (s : Solution) :
    (∃ name, FirstConflict assignments s name) ↔ ¬ ∃ t, MadeBy assignments s t := by
  simp only [← extendSolution_eq_error_iff, ← extendSolution_eq_ok_iff]
  cases extendSolution assignments s <;> simp

theorem MadeBy.partOf (made : MadeBy assignments s t) : s.PartOf t :=
  partOf_of_extendSolution (extendSolution_eq_ok_iff.2 made)

theorem MadeBy.has (made : MadeBy assignments s t) {x : String} (bound : t.has x = true) :
    s.has x = true ∨ x ∈ assignments.map Assignment.name :=
  has_of_extendSolution (extendSolution_eq_ok_iff.2 made) bound

theorem Assignment.Independent.madeBy_swap (independent : a.Independent b)
    (made : MadeBy (before ++ a :: b :: after) s t) :
    MadeBy (before ++ b :: a :: after) s t := by
  obtain ⟨middle, earlier, made⟩ := madeBy_append.1 made
  obtain ⟨u, first, made⟩ := madeBy_cons.1 made
  obtain ⟨v, second, later⟩ := madeBy_cons.1 made
  obtain ⟨w, early, late⟩ := independent.swap first second
  exact madeBy_append.2 ⟨middle, earlier, .cons early (.cons late later)⟩

/-! ## Lists of solutions -/

variable {index : Nat} {l out : List Solution} {assignments' : List Assignment}

/-- **Solutions are extended to what the assignments make of each.** -/
theorem extendSolutions_eq_ok_iff :
    extendSolutions assignments index l = .ok out ↔
      List.Forall₂ (MadeBy assignments) l out := by
  induction l generalizing index out with
  | nil =>
      rw [List.forall₂_nil_left_iff, extendSolutions]
      constructor
      · rintro ⟨⟩
        rfl
      · rintro rfl
        rfl
  | cons s rest ih =>
      rw [List.forall₂_cons_left_iff]
      simp only [← extendSolution_eq_ok_iff, extendSolutions]
      cases extendSolution assignments s with
      | error name => simp
      | ok t =>
          simp only [map_eq_ok_iff, ih, Except.ok.injEq]
          constructor
          · rintro ⟨others, later, rfl⟩
            exact ⟨t, others, rfl, later, rfl⟩
          · rintro ⟨_, others, rfl, later, rfl⟩
            exact ⟨others, later, rfl⟩

/-- **The first solution with a conflict ends it**, by its place and by the variable. -/
theorem extendSolutions_eq_error_iff {e : EvaluationError} :
    extendSolutions assignments index l = .error e ↔
      ∃ name place s, e = .rebinding name (index + place) ∧ l[place]? = some s ∧
        FirstConflict assignments s name ∧
        ∀ earlier < place, ∀ r, l[earlier]? = some r → ∃ t, MadeBy assignments r t := by
  induction l generalizing index with
  | nil => simp [extendSolutions]
  | cons s rest ih =>
      cases first : extendSolution assignments s with
      | error name =>
          have here := extendSolution_eq_error_iff.1 first
          simp only [extendSolutions, first]
          constructor
          · rintro ⟨⟩
            exact ⟨name, 0, s, rfl, rfl, here, fun _ less => absurd less (Nat.not_lt_zero _)⟩
          · rintro ⟨other, place, r, rfl, found, conflict, earlier⟩
            cases place with
            | zero =>
                obtain rfl := Option.some.inj found
                have same := first.symm.trans (extendSolution_eq_error_iff.2 conflict)
                rw [Except.error.inj same]
                rfl
            | succ place =>
                have none := (exists_firstConflict_iff assignments s).1 ⟨name, here⟩
                exact absurd (earlier 0 (Nat.succ_pos place) s rfl) none
      | ok t =>
          have made := extendSolution_eq_ok_iff.1 first
          simp only [extendSolutions, first, map_eq_error_iff, ih]
          -- the others are counted from the next index, so their places move by one
          constructor
          · rintro ⟨name, place, r, rfl, found, conflict, earlier⟩
            refine ⟨name, place + 1, r, by rw [Nat.add_right_comm]; rfl, found, conflict, ?_⟩
            intro before less u at_
            cases before with
            | zero =>
                obtain rfl := Option.some.inj at_
                exact ⟨t, made⟩
            | succ before => exact earlier before (Nat.lt_of_succ_lt_succ less) u at_
          · rintro ⟨name, place, r, rfl, found, conflict, earlier⟩
            cases place with
            | zero =>
                obtain rfl := Option.some.inj found
                exact absurd ⟨t, made⟩ ((exists_firstConflict_iff assignments s).1 ⟨name, conflict⟩)
            | succ place =>
                refine ⟨name, place, r, by rw [Nat.add_right_comm]; rfl, found, conflict, ?_⟩
                intro before less u at_
                exact earlier (before + 1) (Nat.succ_lt_succ less) u at_

/-- Assignments that make the same of every solution extend the same lists to the same lists, and
fail at the same place. -/
theorem extendSolutions_congr (same : ∀ s t, MadeBy assignments s t ↔ MadeBy assignments' s t) :
    (∀ out, extendSolutions assignments index l = .ok out →
      extendSolutions assignments' index l = .ok out) ∧
    ∀ name place, extendSolutions assignments index l = .error (.rebinding name place) →
      ∃ other, extendSolutions assignments' index l = .error (.rebinding other place) := by
  constructor
  · intro out extended
    rw [extendSolutions_eq_ok_iff] at extended ⊢
    exact extended.imp fun s t => (same s t).1
  · intro name place failed
    obtain ⟨name, place, s, ⟨⟩, found, conflict, earlier⟩ :=
      extendSolutions_eq_error_iff.1 failed
    have conflicts : ∃ other, FirstConflict assignments' s other := by
      have none := (exists_firstConflict_iff assignments s).1 ⟨name, conflict⟩
      refine (exists_firstConflict_iff assignments' s).2 ?_
      simpa only [← same] using none
    obtain ⟨other, conflict'⟩ := conflicts
    refine ⟨other, extendSolutions_eq_error_iff.2 ⟨other, place, s, rfl, found, conflict', ?_⟩⟩
    simpa only [← same] using earlier

/-! ## Bags -/

theorem Bag.extend_of_ne_null {b : Bag} (some : b ≠ null) (assignments : Assignments) :
    b.extend assignments =
      (extendSolutions assignments.toList 0 b.solutions).map
        (.ofSolutions (b.names ∪ assignments.names)) := by
  cases b <;> first | rfl | contradiction

/-- A bag is extended solution by solution, or the first solution with a conflict is reported. -/
theorem Bag.extend_cases (b : Bag) (assignments : Assignments) :
    (∃ m, b.extend assignments = .ok m ∧
      List.Forall₂ (MadeBy assignments.toList) b.solutions m.solutions) ∨
    ∃ name place s, b.extend assignments = .error (.rebinding name place) ∧
      b.solutions[place]? = some s ∧ FirstConflict assignments.toList s name ∧
      ∀ earlier < place, ∀ r, b.solutions[earlier]? = some r →
        ∃ t, MadeBy assignments.toList r t := by
  by_cases none : b = null
  · subst none
    exact Or.inl ⟨null, rfl, .nil⟩
  rw [extend_of_ne_null none]
  cases result : extendSolutions assignments.toList 0 b.solutions with
  | ok out => exact Or.inl ⟨_, rfl, extendSolutions_eq_ok_iff.1 result⟩
  | error e =>
      obtain ⟨name, place, s, rfl, found, conflict, earlier⟩ :=
        extendSolutions_eq_error_iff.1 result
      exact Or.inr ⟨name, place, s, by rw [Nat.zero_add]; rfl, found, conflict, earlier⟩

/-- Assignments that make the same of every solution, to the same variables, make the same of
every bag, and fail at the same place. -/
theorem Bag.extend_congr (b : Bag) {assignments assignments' : Assignments}
    (names : assignments.names = assignments'.names)
    (same : ∀ s t, MadeBy assignments.toList s t ↔ MadeBy assignments'.toList s t) :
    (∀ m, b.extend assignments = .ok m → b.extend assignments' = .ok m) ∧
    ∀ name place, b.extend assignments = .error (.rebinding name place) →
      ∃ other, b.extend assignments' = .error (.rebinding other place) := by
  by_cases none : b = null
  · subst none
    exact ⟨fun _ made => made, nofun⟩
  rw [extend_of_ne_null none, extend_of_ne_null none, names]
  obtain ⟨succeeds, fails⟩ := extendSolutions_congr same
  constructor
  · intro m made
    obtain ⟨out, extended, rfl⟩ := map_eq_ok_iff.1 made
    exact map_eq_ok_iff.2 ⟨out, succeeds out extended, rfl⟩
  · intro name place failed
    obtain ⟨other, failed'⟩ := fails name place (map_eq_error_iff.1 failed)
    exact ⟨other, map_eq_error_iff.2 failed'⟩

theorem Assignments.names_eq_of_perm {assignments assignments' : Assignments}
    (perm : assignments.toList.Perm assignments'.toList) :
    assignments.names = assignments'.names := by
  refine NameSet.ext_mem ?_
  intro x
  rw [names, names, NameSet.mem_ofList, NameSet.mem_ofList]
  exact (perm.map Assignment.name).mem_iff

/-- **Extending a bag is conservative, and knows of order only what it has to.**

* Every bag is extended solution by solution: each is made by the assignments one after the other,
  keeps all that it binds, and binds no other name but assigned ones.  Or else it is reported that
  a binding would change, with the least place of a solution that meets a conflict and with the
  variable of the first assignment there that does.
* Two neighbouring assignments neither of which reads or binds the variable of the other may change
  places.  Then the same bag is made; and where there was a conflict there is one, in the same
  solution. -/
theorem extend_conservative (b : Bag) (assignments : Assignments) :
    ((∃ m, b.extend assignments = .ok m ∧
        List.Forall₂ (fun s t => MadeBy assignments.toList s t ∧ s.PartOf t ∧
          ∀ x, t.has x = true → s.has x = true ∨ x ∈ assignments.names) b.solutions m.solutions) ∨
      ∃ name place s, b.extend assignments = .error (.rebinding name place) ∧
        b.solutions[place]? = some s ∧ FirstConflict assignments.toList s name ∧
        ∀ earlier < place, ∀ r, b.solutions[earlier]? = some r →
          ∀ other, ¬ FirstConflict assignments.toList r other) ∧
    ∀ (before after : List Assignment) (a a' : Assignment) (swapped : Assignments),
      assignments.toList = before ++ a :: a' :: after →
      swapped.toList = before ++ a' :: a :: after → a.Independent a' →
      (∀ m, b.extend assignments = .ok m → b.extend swapped = .ok m) ∧
      ∀ name place, b.extend assignments = .error (.rebinding name place) →
        ∃ other, b.extend swapped = .error (.rebinding other place) := by
  constructor
  · rcases b.extend_cases assignments with
      ⟨m, made, each⟩ | ⟨name, place, s, failed, found, conflict, earlier⟩
    · refine Or.inl ⟨m, made, each.imp ?_⟩
      intro s t made
      exact ⟨made, made.partOf, fun x bound => (made.has bound).imp_right NameSet.mem_ofList.2⟩
    · refine Or.inr ⟨name, place, s, failed, found, conflict, ?_⟩
      intro before less r at_ other conflict'
      exact (exists_firstConflict_iff _ r).1 ⟨other, conflict'⟩ (earlier before less r at_)
  · intro before after a a' swapped listed listed' independent
    refine b.extend_congr (Assignments.names_eq_of_perm ?_) ?_
    · rw [listed, listed']
      exact (List.Perm.swap a' a after).append_left before
    · intro s t
      rw [listed, listed']
      exact ⟨independent.madeBy_swap, independent.symm.madeBy_swap⟩

namespace Sample

/-- Everybody gets a room. -/
def lodging : Assignment :=
  ⟨"room", .const (.iri "e7")⟩

/-- Everybody who is named is listed. -/
def listing : Assignment :=
  ⟨"listed", .bound "who"⟩

/-- Somebody who is only named. -/
def arrived : Solution :=
  .ofList [("who", .iri "ann")]

/-- Somebody who has another room and shall not be listed. -/
def settled : Solution :=
  .ofList [("listed", .ofBool false), ("room", .iri "e8"), ("who", .iri "bob")]

end Sample

/-- Of somebody who is only named both orders make the same.  Somebody who is settled conflicts
with either assignment, and is reported both times. -/
theorem extend_conservative_lodging :
    Sample.lodging.Independent Sample.listing ∧
    (∃ m, (Bag.ofSolutions ∅ [Sample.arrived]).extend ⟨Sample.lodging, [Sample.listing]⟩ = .ok m ∧
      (Bag.ofSolutions ∅ [Sample.arrived]).extend ⟨Sample.listing, [Sample.lodging]⟩ = .ok m) ∧
    (Bag.ofSolutions ∅ [Sample.arrived, Sample.settled]).extend
      ⟨Sample.lodging, [Sample.listing]⟩ = .error (.rebinding "room" 1) ∧
    ∃ other, (Bag.ofSolutions ∅ [Sample.arrived, Sample.settled]).extend
      ⟨Sample.listing, [Sample.lodging]⟩ = .error (.rebinding other 1) := by
  have independent : Sample.lodging.Independent Sample.listing :=
    ⟨by decide, by decide, by decide⟩
  obtain ⟨-, swap⟩ :=
    extend_conservative (.ofSolutions ∅ [Sample.arrived]) ⟨Sample.lodging, [Sample.listing]⟩
  obtain ⟨-, swap'⟩ := extend_conservative (.ofSolutions ∅ [Sample.arrived, Sample.settled])
    ⟨Sample.lodging, [Sample.listing]⟩
  obtain ⟨same, -⟩ := swap [] [] _ _ ⟨Sample.listing, [Sample.lodging]⟩ rfl rfl independent
  obtain ⟨-, still⟩ := swap' [] [] _ _ ⟨Sample.listing, [Sample.lodging]⟩ rfl rfl independent
  refine ⟨independent, ⟨_, rfl, same _ rfl⟩, rfl, still "room" 1 rfl⟩

end TripleAlgebra
