/-
# TripleAlgebra.NameSet -- finite sets of variable names

A set of names is kept as the list of its members in ascending order, each once.
Order is by code point.  The list is part of the value, so listing a set has one
answer, and two sets with the same members are equal (`NameSet.ext_mem`).
-/
namespace TripleAlgebra

set_option autoImplicit false

/-! ## The order of names -/

/-- Of two names neither of which comes first, both are the same. -/
theorem name_eq_of_not_lt {x y : String} (h₁ : ¬ x < y) (h₂ : ¬ y < x) : x = y :=
  String.le_antisymm (String.not_lt.1 h₂) (String.not_lt.1 h₁)

theorem name_lt_of_not_lt_of_ne {x y : String} (h : ¬ x < y) (ne : x ≠ y) : y < x :=
  Classical.byContradiction fun h' => ne (name_eq_of_not_lt h h')

/-! ## Ascending lists -/

/-- Put a name into an ascending list, unless it is there. -/
def insertName (x : String) : List String → List String
  | [] => [x]
  | y :: rest =>
      if x < y then x :: y :: rest
      else if x = y then y :: rest
      else y :: insertName x rest

theorem mem_insertName {x z : String} {l : List String} :
    z ∈ insertName x l ↔ z = x ∨ z ∈ l := by
  induction l with
  | nil => simp [insertName]
  | cons y rest ih =>
      simp only [insertName]
      split
      · simp
      · split
        · rename_i same
          subst same
          simp
        · rw [List.mem_cons, ih, List.mem_cons]
          constructor <;> rintro (h | h | h) <;> simp [h]

theorem insertName_sorted (x : String) {l : List String} (sorted : l.Pairwise (· < ·)) :
    (insertName x l).Pairwise (· < ·) := by
  induction l with
  | nil => simp [insertName]
  | cons y rest ih =>
      obtain ⟨below, tail⟩ := List.pairwise_cons.1 sorted
      simp only [insertName]
      split
      · rename_i first
        refine List.pairwise_cons.2 ⟨fun z member => ?_, sorted⟩
        rcases List.mem_cons.1 member with rfl | inRest
        · exact first
        · exact String.lt_trans first (below z inRest)
      · split
        · exact sorted
        · rename_i notFirst different
          refine List.pairwise_cons.2 ⟨fun z member => ?_, ih tail⟩
          rcases mem_insertName.1 member with rfl | inRest
          · exact name_lt_of_not_lt_of_ne notFirst different
          · exact below z inRest

/-- No names at all are in ascending order. -/
theorem sorted_nil : ([] : List String).Pairwise (· < ·) := .nil

/-- An ascending list is determined by its members. -/
theorem eq_of_sorted_of_mem_iff {l m : List String} (hl : l.Pairwise (· < ·))
    (hm : m.Pairwise (· < ·)) (same : ∀ x, x ∈ l ↔ x ∈ m) : l = m := by
  induction l generalizing m with
  | nil =>
      cases m with
      | nil => rfl
      | cons y rest => exact absurd ((same y).2 List.mem_cons_self) List.not_mem_nil
  | cons x l ih =>
      cases m with
      | nil => exact absurd ((same x).1 List.mem_cons_self) List.not_mem_nil
      | cons y m =>
          obtain ⟨xBelow, lTail⟩ := List.pairwise_cons.1 hl
          obtain ⟨yBelow, mTail⟩ := List.pairwise_cons.1 hm
          have heads : x = y := by
            apply name_eq_of_not_lt
            · intro lt
              rcases List.mem_cons.1 ((same x).1 List.mem_cons_self) with rfl | later
              · exact String.lt_irrefl _ lt
              · exact String.lt_asymm lt (yBelow x later)
            · intro lt
              rcases List.mem_cons.1 ((same y).2 List.mem_cons_self) with rfl | later
              · exact String.lt_irrefl _ lt
              · exact String.lt_asymm lt (xBelow y later)
          subst heads
          refine congrArg _ (ih lTail mTail fun z => ?_)
          have key := same z
          simp only [List.mem_cons] at key
          constructor
          · intro inL
            rcases key.1 (Or.inr inL) with rfl | inM
            · exact absurd (xBelow z inL) (String.lt_irrefl z)
            · exact inM
          · intro inM
            rcases key.2 (Or.inr inM) with rfl | inL
            · exact absurd (yBelow z inM) (String.lt_irrefl z)
            · exact inL

/-! ## Sets of names -/

/-- A finite set of names, listed in ascending order. -/
structure NameSet where
  names : List String
  sorted : names.Pairwise (· < ·)
deriving DecidableEq

namespace NameSet

instance : Membership String NameSet where
  mem set name := name ∈ set.names

instance (name : String) (set : NameSet) : Decidable (name ∈ set) :=
  inferInstanceAs (Decidable (name ∈ set.names))

/-- Sets with the same members are equal. -/
theorem ext_mem {a b : NameSet} (same : ∀ x, x ∈ a ↔ x ∈ b) : a = b := by
  cases a with
  | mk l hl =>
    cases b with
    | mk m hm =>
      congr
      exact eq_of_sorted_of_mem_iff hl hm same

def empty : NameSet := ⟨[], sorted_nil⟩

instance : EmptyCollection NameSet := ⟨empty⟩

def insert (name : String) (set : NameSet) : NameSet :=
  ⟨insertName name set.names, insertName_sorted name set.sorted⟩

/-- The set of the names in a list. -/
def ofList (names : List String) : NameSet :=
  names.foldr insert ∅

/-- The names in either set. -/
def union (a b : NameSet) : NameSet :=
  a.names.foldr insert b

instance : Union NameSet := ⟨union⟩

/-- The names that pass a test. -/
def filter (keep : String → Bool) (set : NameSet) : NameSet :=
  ⟨set.names.filter keep, set.sorted.filter keep⟩

/-- The names in both sets. -/
def inter (a b : NameSet) : NameSet :=
  a.filter (· ∈ b)

instance : Inter NameSet := ⟨inter⟩

/-- The names of the first set that are not in the second. -/
def diff (a b : NameSet) : NameSet :=
  a.filter (· ∉ b)

instance : SDiff NameSet := ⟨diff⟩

/-- No name is in both sets. -/
def disjoint (a b : NameSet) : Bool :=
  a.names.all (· ∉ b)

/-! ### Membership -/

theorem mem_iff_mem_names {x : String} {a : NameSet} : x ∈ a ↔ x ∈ a.names := Iff.rfl

@[simp] theorem not_mem_empty (x : String) : x ∉ (∅ : NameSet) := List.not_mem_nil

@[simp] theorem mem_insert {x y : String} {a : NameSet} : x ∈ a.insert y ↔ x = y ∨ x ∈ a :=
  mem_insertName

@[simp] theorem mem_foldr_insert {x : String} {l : List String} {a : NameSet} :
    x ∈ l.foldr insert a ↔ x ∈ l ∨ x ∈ a := by
  induction l with
  | nil => simp
  | cons y rest ih => simp [ih, or_assoc]

@[simp] theorem mem_ofList {x : String} {l : List String} : x ∈ ofList l ↔ x ∈ l := by
  simp [ofList]

@[simp] theorem mem_union {x : String} {a b : NameSet} : x ∈ a ∪ b ↔ x ∈ a ∨ x ∈ b :=
  mem_foldr_insert

@[simp] theorem mem_filter {x : String} {keep : String → Bool} {a : NameSet} :
    x ∈ a.filter keep ↔ x ∈ a ∧ keep x = true :=
  List.mem_filter

@[simp] theorem mem_inter {x : String} {a b : NameSet} : x ∈ a ∩ b ↔ x ∈ a ∧ x ∈ b := by
  show x ∈ a.filter (· ∈ b) ↔ _
  simp

@[simp] theorem mem_diff {x : String} {a b : NameSet} : x ∈ a \ b ↔ x ∈ a ∧ x ∉ b := by
  show x ∈ a.filter (· ∉ b) ↔ _
  simp

theorem union_comm (a b : NameSet) : a ∪ b = b ∪ a := by
  refine ext_mem ?_
  intro x
  rw [mem_union, mem_union, or_comm]

theorem union_assoc (a b c : NameSet) : a ∪ b ∪ c = a ∪ (b ∪ c) := by
  refine ext_mem ?_
  intro x
  simp only [mem_union, or_assoc]

theorem inter_comm (a b : NameSet) : a ∩ b = b ∩ a := by
  refine ext_mem ?_
  intro x
  rw [mem_inter, mem_inter, and_comm]

theorem union_union_distrib_right (a b c : NameSet) : a ∪ b ∪ c = a ∪ c ∪ (b ∪ c) := by
  refine ext_mem ?_
  intro x
  simp only [mem_union]
  exact or_or_distrib_right

theorem disjoint_eq_true_iff {a b : NameSet} : a.disjoint b = true ↔ ∀ x ∈ a, x ∉ b := by
  simp [disjoint, mem_iff_mem_names]

end NameSet

end TripleAlgebra
