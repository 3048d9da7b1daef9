/-
# TripleAlgebra.Proofs.Algebra.CanonicalText -- the canonical text identifies the query

Two queries with the same canonical text are the same query (`eq_of_text_eq`), if their names,
labels, language tags and IRIs keep clear of the characters that end them.  Literals are free
to hold any text.

The word behind the opening parenthesis tells which kind of node it is and which operator it
has.  The parts of the node are then recognized one after the other: the parameters of a
modifier before its child, those of a combinator behind its children.
-/
import TripleAlgebra.Algebra.Rebuild
import TripleAlgebra.Decimal.Integer
import TripleAlgebra.Proofs.Text.Expressions

namespace TripleAlgebra

set_option autoImplicit false

open Text

/-! ## Patterns -/

namespace Pattern

def isLegible (p : Pattern) : Bool :=
  p.subject.isLegible && p.predicate.isLegible && p.object.isLegible

theorem toList_render (p : Pattern) (rest : List Char) :
    (p.render Term.text).toList ++ rest =
      '(' :: ("triple".toList ++ ' ' :: ((p.subject.render Term.text).toList ++
        ' ' :: ((p.predicate.render Term.text).toList ++
          ' ' :: ((p.object.render Term.text).toList ++ ')' :: rest)))) := by
  simp [render]

theorem recognized {p : Pattern} (readable : p.isLegible = true) :
    Recognized isLegible (render Term.text) p := by
  intro q r s other _ _ same
  obtain ⟨subject, predicate, object, fits⟩ := p
  obtain ⟨subject', predicate', object', fits'⟩ := q
  simp only [isLegible, Bool.and_eq_true] at readable other
  rw [toList_render, toList_render] at same
  obtain ⟨rfl, behindSubject⟩ :=
    Slot.recognized readable.1.1 other.1.1 (stops_space _) (stops_space _) (operands_eq same)
  obtain ⟨rfl, behindPredicate⟩ :=
    Slot.recognized readable.1.2 other.1.2 (stops_space _) (stops_space _)
      (List.cons.inj behindSubject).2
  obtain ⟨rfl, behindObject⟩ :=
    Slot.recognized readable.2 other.2 (stops_close r) (stops_close s)
      (List.cons.inj behindPredicate).2
  exact ⟨rfl, (List.cons.inj behindObject).2⟩

end Pattern

/-! ## Parameters -/

namespace Assignment

def isLegible (a : Assignment) : Bool :=
  isWord a.name && a.value.isLegible

theorem toList_render (a : Assignment) (rest : List Char) :
    (a.render Term.text).toList ++ rest =
      '(' :: ((variableText a.name).toList ++
        ' ' :: ((a.value.render Term.text).toList ++ ')' :: rest)) := by
  rw [render, toList_parenthesized_cons]
  simp

theorem render_ne_close (a : Assignment) (r s : List Char) :
    (a.render Term.text).toList ++ r ≠ ')' :: s := by
  simp [toList_render]

theorem recognized {a : Assignment} (readable : a.isLegible = true) :
    Recognized isLegible (render Term.text) a := by
  intro b r s other _ _ same
  obtain ⟨name, value⟩ := a
  obtain ⟨name', value'⟩ := b
  simp only [isLegible, Bool.and_eq_true] at readable other
  rw [toList_render, toList_render, List.cons.injEq] at same
  obtain ⟨rfl, behindName⟩ :=
    recognized_variableText readable.1 other.1 (stops_space _) (stops_space _) same.2
  obtain ⟨rfl, behindValue⟩ :=
    Expr.recognized readable.2 other.2 (stops_close r) (stops_close s) (List.cons.inj behindName).2
  exact ⟨rfl, (List.cons.inj behindValue).2⟩

end Assignment

namespace Text

theorem isWord_repr (n : Nat) : isWord n.repr = true := by
  rw [isWord, Nat.toList_repr, List.all_eq_true]
  intro c digit
  have digit := Nat.isDigit_of_mem_toDigits (by decide) (by decide) digit
  simp only [isPlain, Bool.and_eq_true, bne_iff_ne]
  refine ⟨⟨?_, ?_⟩, ?_⟩ <;> rintro rfl <;> cases digit

/-- Two numbers with the same digits are the same, because the digits can be read back. -/
theorem repr_inj {m n : Nat} (same : m.repr = n.repr) : m = n := by
  have digits : Nat.toDigits 10 m = Nat.toDigits 10 n := by
    rw [← Nat.toList_repr, same, Nat.toList_repr]
  have read := Decimal.digits?_toDigits m
  rw [digits, Decimal.digits?_toDigits] at read
  exact (Option.some.inj read).symm

theorem recognized_repr (n : Nat) : Recognized (fun _ => true) Nat.repr n :=
  recognized_of_word (fun m _ => isWord_repr m) (fun _ _ => repr_inj) rfl

/-- The parameter of a run of solutions that says how many there are at most. -/
def limitText (limit : Option Nat) : String :=
  match limit with
  | some count => count.repr
  | none => "_"

theorem limitText_inj {left right : Option Nat} (same : limitText left = limitText right) :
    left = right := by
  have noNumber (n : Nat) : n.repr ≠ "_" := by
    intro openEnd
    have digit := Nat.isDigit_of_mem_toDigits (b := 10) (n := n) (c := '_') (by decide) (by decide)
      (by rw [← Nat.toList_repr, openEnd]; decide)
    cases digit
  cases left with
  | none =>
      cases right with
      | none => rfl
      | some n => exact absurd same.symm (noNumber n)
  | some m =>
      cases right with
      | none => exact absurd same (noNumber m)
      | some n => exact congrArg some (repr_inj same)

theorem recognized_limitText (limit : Option Nat) :
    Recognized (fun _ => true) limitText limit := by
  refine recognized_of_word (fun limit _ => ?_) (fun _ _ => limitText_inj) rfl
  cases limit with
  | none => decide
  | some n => exact isWord_repr n

end Text

namespace Modifier

/-- The names and expressions among the parameters can be read back. -/
def isLegible : Modifier → Bool
  | extend assignments => assignments.toList.all Assignment.isLegible
  | filter condition => condition.isLegible
  | distinct => true
  | project names => names.all isWord
  | slice _ _ => true

/-- The names of the operators with one child. -/
def allNames : List String :=
  ["extend", "filter", "distinct", "project", "slice"]

theorem name_mem (modifier : Modifier) : modifier.name ∈ allNames := by
  cases modifier <;> simp [name, allNames]

theorem isWord_name (modifier : Modifier) : isWord modifier.name = true :=
  List.all_eq_true.mp (show allNames.all isWord = true by decide) _ modifier.name_mem

theorem name_ne (modifier : Modifier) (word : String) (foreign : word ∉ allNames) :
    modifier.name ≠ word := by
  rintro rfl
  exact foreign modifier.name_mem

theorem parameters_extend (assignments : Assignments) :
    (extend assignments).parameters Term.text =
      [parenthesized (assignments.toList.map (Assignment.render Term.text))] :=
  rfl

theorem parameters_filter (condition : Expr) :
    (filter condition).parameters Term.text = [condition.render Term.text] :=
  rfl

theorem parameters_project (names : List String) :
    (project names).parameters Term.text = [parenthesized (names.map variableText)] :=
  rfl

theorem parameters_slice (offset : Nat) (limit : Option Nat) :
    (slice offset limit).parameters Term.text = [offset.repr, limitText limit] :=
  rfl

/-- The parameters of a modifier whose name is known are recognized in front of its child. -/
theorem parameters_cancel {m n : Modifier} {r s : List Char} (readable : m.isLegible = true)
    (other : n.isLegible = true) (named : m.name = n.name)
    (same : spaced id (m.parameters Term.text) ++ ' ' :: r =
      spaced id (n.parameters Term.text) ++ ' ' :: s) : m = n ∧ r = s := by
  cases m with
  | extend assignments =>
      cases n with
      | extend assignments' =>
          rw [parameters_extend, parameters_extend, spaced_single, spaced_single,
            List.cons.injEq] at same
          have each : ∀ a ∈ assignments.toList,
              Recognized Assignment.isLegible (Assignment.render Term.text) a :=
            fun a member => Assignment.recognized (List.all_eq_true.mp readable a member)
          obtain ⟨lists, rests⟩ := recognized_parenthesized each Assignment.render_ne_close other
            (stops_space r) (stops_space s) same.2
          obtain ⟨first, more⟩ := assignments
          obtain ⟨first', more'⟩ := assignments'
          cases lists
          exact ⟨rfl, (List.cons.inj rests).2⟩
      | filter | distinct | project | slice => simp [name] at named
  | filter condition =>
      cases n with
      | filter condition' =>
          rw [parameters_filter, parameters_filter, spaced_single, spaced_single,
            List.cons.injEq] at same
          obtain ⟨rfl, rests⟩ :=
            Expr.recognized readable other (stops_space r) (stops_space s) same.2
          exact ⟨rfl, (List.cons.inj rests).2⟩
      | extend | distinct | project | slice => simp [name] at named
  | distinct =>
      cases n with
      | distinct => exact ⟨rfl, (List.cons.inj same).2⟩
      | extend | filter | project | slice => simp [name] at named
  | project names =>
      cases n with
      | project names' =>
          rw [parameters_project, parameters_project, spaced_single, spaced_single,
            List.cons.injEq] at same
          have each : ∀ name ∈ names, Recognized isWord variableText name :=
            fun name member => recognized_variableText (List.all_eq_true.mp readable name member)
          obtain ⟨rfl, rests⟩ := recognized_parenthesized each variableText_ne_close other
            (stops_space r) (stops_space s) same.2
          exact ⟨rfl, (List.cons.inj rests).2⟩
      | extend | filter | distinct | slice => simp [name] at named
  | slice offset limit =>
      cases n with
      | slice offset' limit' =>
          rw [parameters_slice, parameters_slice, spaced_cons_append, spaced_single,
            spaced_cons_append, spaced_single, List.cons.injEq] at same
          obtain ⟨rfl, behind⟩ :=
            recognized_repr offset rfl (stops_space _) (stops_space _) same.2
          obtain ⟨rfl, rests⟩ := recognized_limitText limit rfl (stops_space r) (stops_space s)
            (List.cons.inj behind).2
          exact ⟨rfl, (List.cons.inj rests).2⟩
      | extend | filter | distinct | project => simp [name] at named

end Modifier

namespace Combinator

/-- The expression among the parameters can be read back. -/
def isLegible : Combinator → Bool
  | leftJoin (some filter) => filter.isLegible
  | _ => true

/-- The names of the operators with two children. -/
def allNames : List String :=
  ["join", "leftjoin", "union", "exists", "notexists", "minus"]

theorem name_mem (combinator : Combinator) : combinator.name ∈ allNames := by
  cases combinator with
  | semiJoin mustExist => cases mustExist <;> simp [name, allNames]
  | join | leftJoin | union | minus => simp [name, allNames]

theorem isWord_name (combinator : Combinator) : isWord combinator.name = true :=
  List.all_eq_true.mp (show allNames.all isWord = true by decide) _ combinator.name_mem

theorem name_ne (combinator : Combinator) (word : String) (foreign : word ∉ allNames) :
    combinator.name ≠ word := by
  rintro rfl
  exact foreign combinator.name_mem

/-- No operator with two children has the name of one with one. -/
theorem name_ne_modifier (combinator : Combinator) (modifier : Modifier) :
    combinator.name ≠ modifier.name := by
  have disjoint : ∀ name ∈ Modifier.allNames, name ∉ allNames := by decide
  exact combinator.name_ne _ (disjoint _ modifier.name_mem)

theorem stops_parameters (combinator : Combinator) (rest : List Char) :
    Stops (spaced id (combinator.parameters Term.text) ++ ')' :: rest) :=
  stops_spaced _ rest

theorem parameters_leftJoin (condition : Expr) :
    (leftJoin (some condition)).parameters Term.text = [condition.render Term.text] :=
  rfl

/-- The name of a combinator leaves open only the filter of an optional join. -/
theorem eq_or_leftJoin_of_name {c d : Combinator} (named : c.name = d.name) :
    c = d ∨ ∃ filter filter', c = leftJoin filter ∧ d = leftJoin filter' := by
  rcases c with _ | filter | _ | (_ | _) | _ <;> rcases d with _ | filter' | _ | (_ | _) | _ <;>
    simp [name] at named ⊢

/-- The parameters of a combinator whose name is known are recognized behind its children: a
filter stands behind a space, and the parenthesis closes at once if there is none. -/
theorem parameters_cancel {c d : Combinator} {r s : List Char} (readable : c.isLegible = true)
    (other : d.isLegible = true) (named : c.name = d.name)
    (same : spaced id (c.parameters Term.text) ++ ')' :: r =
      spaced id (d.parameters Term.text) ++ ')' :: s) : c = d ∧ r = s := by
  rcases eq_or_leftJoin_of_name named with rfl | ⟨filter, filter', rfl, rfl⟩
  · have rests := List.append_cancel_left same
    exact ⟨rfl, (List.cons.inj rests).2⟩
  · cases filter with
    | none =>
        cases filter' with
        | none => exact ⟨rfl, (List.cons.inj same).2⟩
        | some condition' => simp [parameters] at same
    | some condition =>
        cases filter' with
        | none => simp [parameters] at same
        | some condition' =>
            rw [parameters_leftJoin, parameters_leftJoin, spaced_single, spaced_single,
              List.cons.injEq] at same
            obtain ⟨rfl, rests⟩ :=
              Expr.recognized readable other (stops_close r) (stops_close s) same.2
            exact ⟨rfl, (List.cons.inj rests).2⟩

end Combinator

/-! ## Queries -/

namespace Algebra

/-- **The texts of the query can be read back.**  Names, labels and language tags have no space
and no parenthesis, and no IRI has a closing bracket; literals are free. -/
def isLegible : Algebra → Bool
  | pattern p => p.isLegible
  | bgp ps => ps.all Pattern.isLegible
  | modify modifier inner => modifier.isLegible && inner.isLegible
  | combine combinator left right => combinator.isLegible && left.isLegible && right.isLegible

theorem toList_render_bgp (ps : List Pattern) (rest : List Char) :
    ((bgp ps).render Term.text).toList ++ rest =
      '(' :: ("bgp".toList ++ (spaced (Pattern.render Term.text) ps ++ ')' :: rest)) := by
  rw [render, toList_parenthesized_cons, spaced_id_map]

theorem toList_render_modify (modifier : Modifier) (inner : Algebra) (rest : List Char) :
    ((modify modifier inner).render Term.text).toList ++ rest =
      '(' :: (modifier.name.toList ++ (spaced id (modifier.parameters Term.text) ++
        ' ' :: ((inner.render Term.text).toList ++ ')' :: rest))) := by
  rw [render, List.cons_append, toList_parenthesized_cons]
  simp [spaced]

theorem toList_render_combine (combinator : Combinator) (left right : Algebra)
    (rest : List Char) :
    ((combine combinator left right).render Term.text).toList ++ rest =
      '(' :: (combinator.name.toList ++ ' ' :: ((left.render Term.text).toList ++
        ' ' :: ((right.render Term.text).toList ++
          (spaced id (combinator.parameters Term.text) ++ ')' :: rest)))) := by
  rw [render, List.cons_append, toList_parenthesized_cons]
  simp [spaced]

/-- A query begins with the name of the operator at its root. -/
theorem keyword_render (a : Algebra) (rest : List Char) :
    keyword ((a.render Term.text).toList ++ rest) = a.operatorName.toList := by
  cases a with
  | pattern p =>
      rw [render, p.toList_render]
      exact keyword_open (by decide) (stops_space _)
  | bgp ps =>
      rw [toList_render_bgp]
      exact keyword_open (by decide) (stops_spaced ps rest)
  | modify modifier inner =>
      rw [toList_render_modify]
      refine keyword_open modifier.isWord_name ?_
      cases modifier.parameters Term.text <;> simp
  | combine combinator left right =>
      rw [toList_render_combine]
      exact keyword_open combinator.isWord_name (stops_space _)

theorem eq_pattern_of_operatorName {a : Algebra} (h : a.operatorName = "triple") :
    ∃ p, a = pattern p := by
  cases a with
  | pattern p => exact ⟨p, rfl⟩
  | bgp => simp [operatorName] at h
  | modify modifier => exact absurd h (modifier.name_ne "triple" (by decide))
  | combine combinator => exact absurd h (combinator.name_ne "triple" (by decide))

theorem eq_bgp_of_operatorName {a : Algebra} (h : a.operatorName = "bgp") :
    ∃ ps, a = bgp ps := by
  cases a with
  | bgp ps => exact ⟨ps, rfl⟩
  | pattern => simp [operatorName] at h
  | modify modifier => exact absurd h (modifier.name_ne "bgp" (by decide))
  | combine combinator => exact absurd h (combinator.name_ne "bgp" (by decide))

theorem eq_modify_of_operatorName {a : Algebra} {modifier : Modifier}
    (h : a.operatorName = modifier.name) : ∃ modifier' inner, a = modify modifier' inner := by
  cases a with
  | modify modifier' inner => exact ⟨modifier', inner, rfl⟩
  | pattern => exact absurd h.symm (modifier.name_ne "triple" (by decide))
  | bgp => exact absurd h.symm (modifier.name_ne "bgp" (by decide))
  | combine combinator => exact absurd h (combinator.name_ne_modifier modifier)

theorem eq_combine_of_operatorName {a : Algebra} {combinator : Combinator}
    (h : a.operatorName = combinator.name) :
    ∃ combinator' left right, a = combine combinator' left right := by
  cases a with
  | combine combinator' left right => exact ⟨combinator', left, right, rfl⟩
  | pattern => exact absurd h.symm (combinator.name_ne "triple" (by decide))
  | bgp => exact absurd h.symm (combinator.name_ne "bgp" (by decide))
  | modify modifier => exact absurd h.symm (combinator.name_ne_modifier modifier)

theorem operatorName_eq_of_text {a b : Algebra} {r s : List Char}
    (same : (a.render Term.text).toList ++ r = (b.render Term.text).toList ++ s) :
    a.operatorName = b.operatorName := by
  rw [← String.toList_inj, ← keyword_render a r, same, keyword_render]

theorem recognized {a : Algebra} (readable : a.isLegible = true) :
    Recognized isLegible (render Term.text) a := by
  -- What follows is left open in the induction: behind a child stands the rest of its parent.
  induction a with
  | pattern p =>
      intro b r s other stopsLeft stopsRight same
      obtain ⟨q, rfl⟩ := eq_pattern_of_operatorName (operatorName_eq_of_text same).symm
      obtain ⟨patterns, rests⟩ := Pattern.recognized readable other stopsLeft stopsRight same
      exact ⟨congrArg pattern patterns, rests⟩
  | bgp ps =>
      intro b r s other _ _ same
      obtain ⟨qs, rfl⟩ := eq_bgp_of_operatorName (operatorName_eq_of_text same).symm
      rw [toList_render_bgp, toList_render_bgp] at same
      have each : ∀ p ∈ ps, Recognized Pattern.isLegible (Pattern.render Term.text) p :=
        fun p member => Pattern.recognized (List.all_eq_true.mp readable p member)
      obtain ⟨patterns, rests⟩ :=
        spaced_cancel each other (List.append_cancel_left (List.cons.inj same).2)
      exact ⟨congrArg bgp patterns, rests⟩
  | modify modifier inner ih =>
      intro b r s other _ _ same
      have named := operatorName_eq_of_text same
      obtain ⟨modifier', inner', rfl⟩ := eq_modify_of_operatorName named.symm
      obtain ⟨readableHere, readableInner⟩ := Bool.and_eq_true_iff.mp readable
      obtain ⟨otherHere, otherInner⟩ := Bool.and_eq_true_iff.mp other
      have sameName : modifier.name = modifier'.name := named
      rw [toList_render_modify, toList_render_modify, sameName] at same
      obtain ⟨rfl, behind⟩ := Modifier.parameters_cancel readableHere otherHere sameName
        (List.append_cancel_left (List.cons.inj same).2)
      obtain ⟨rfl, rests⟩ := ih readableInner otherInner (stops_close r) (stops_close s) behind
      exact ⟨rfl, (List.cons.inj rests).2⟩
  | combine combinator left right ihLeft ihRight =>
      intro b r s other _ _ same
      have named := operatorName_eq_of_text same
      obtain ⟨combinator', left', right', rfl⟩ := eq_combine_of_operatorName named.symm
      simp only [isLegible, Bool.and_eq_true] at readable other
      have sameName : combinator.name = combinator'.name := named
      rw [toList_render_combine, toList_render_combine, sameName] at same
      obtain ⟨rfl, behindLeft⟩ :=
        ihLeft readable.1.2 other.1.2 (stops_space _) (stops_space _) (operands_eq same)
      obtain ⟨rfl, behindRight⟩ := ihRight readable.2 other.2 (combinator.stops_parameters r)
        (combinator'.stops_parameters s) (List.cons.inj behindLeft).2
      obtain ⟨rfl, rests⟩ :=
        Combinator.parameters_cancel readable.1.1 other.1.1 sameName behindRight
      exact ⟨rfl, rests⟩

/-- **The canonical text identifies the query.**  Two legible queries with one text are the same
tree: the same operators with the same children, the same patterns and therewith the same roles
of their slots, and the same expressions, assignments, names, bounds and filters. -/
theorem eq_of_text_eq {a b : Algebra} (left : a.isLegible = true) (right : b.isLegible = true)
    (same : a.text = b.text) : a = b := by
  have texts : (a.render Term.text).toList ++ [] = (b.render Term.text).toList ++ [] := by
    rw [List.append_nil, List.append_nil]
    exact congrArg String.toList same
  exact (recognized left right stops_nil stops_nil texts).1

end Algebra

namespace Sample

/-- A literal whose text looks like the end of its expression, an open run of solutions, no
projected name, and an optional join with a filter. -/
def quotation (remark : String) : Algebra :=
  .modify (.slice 2 none) (.modify (.project [])
    (.combine
      (.leftJoin (some (.binary .less (.var "x") (.const (.literal (.tagged remark "en"))))))
      (.bgp [⟨.var "x", .const (.iri "http://a b/(?x"), .const (.literal (.plain remark)), rfl⟩])
      (.modify (.extend ⟨⟨"y", .unary .not (.bound "x")⟩, []⟩) (.bgp []))))

end Sample

namespace Algebra

/-- A query that was taken apart and put together again is recognized by its text, and a
control character is told from the text of its escape. -/
theorem eq_of_text_eq_quotation :
    ∃ copy, (Sample.quotation "\") ?x\x01").rebuild id = .ok copy ∧ copy.isLegible = true ∧
      copy.text = (Sample.quotation "\") ?x\x01").text ∧
      copy = Sample.quotation "\") ?x\x01" ∧
      (Sample.quotation "\") ?x\\u0001").text ≠ copy.text := by
  refine ⟨_, rfl, by decide, rfl, ?_, fun same => ?_⟩
  · exact eq_of_text_eq (by decide) (by decide) rfl
  · exact absurd (eq_of_text_eq (by decide) (by decide) same) (by decide)

/-- A name with a space in it could be taken for two names. -/
example (a : Algebra) :
    (modify (.project ["x ?y"]) a).text = (modify (.project ["x", "y"]) a).text :=
  rfl

end Algebra

end TripleAlgebra
