/-
# TripleAlgebra.Bindings -- finite maps from names, in name order

A map from names to values is kept as the list of its entries in ascending name
order, so that listing it has one answer and two maps that answer every look-up
alike are equal (`Bindings.ext_get?`).  A solution of a query is such a map, and so
is the record of the positions at which a pattern uses each variable.
-/
import TripleAlgebra.NameSet

namespace TripleAlgebra

set_option autoImplicit false

universe u v

variable {α : Type u} {β : Type v}

/-! ## Ascending lists of entries -/

/-- The value at a name in a list of entries. -/
def lookupEntry (name : String) : List (String × α) → Option α
  | [] => none
  | (key, value) :: rest => if name = key then some value else lookupEntry name rest

/-- Put a value at a name into an ascending list of entries, replacing what is
there. -/
def insertEntry (name : String) (value : α) : List (String × α) → List (String × α)
  | [] => [(name, value)]
  | (key, old) :: rest =>
      if name < key then (name, value) :: (key, old) :: rest
      else if name = key then (name, value) :: rest
      else (key, old) :: insertEntry name value rest

theorem lookupEntry_insertEntry (name x : String) (value : α) (l : List (String × α)) :
    lookupEntry x (insertEntry name value l) =
      if x = name then some value else lookupEntry x l := by
  induction l with
  | nil => rfl
  | cons entry rest ih =>
      obtain ⟨key, old⟩ := entry
      simp only [insertEntry]
      split
      · rfl
      · split
        · rename_i same
          subst same
          simp only [lookupEntry]
          split <;> rfl
        · rename_i different
          simp only [lookupEntry, ih]
          by_cases here : x = key
          · subst here
            simp [Ne.symm different]
          · simp [here]

theorem map_fst_insertEntry (name : String) (value : α) (l : List (String × α)) :
    (insertEntry name value l).map Prod.fst = insertName name (l.map Prod.fst) := by
  induction l with
  | nil => rfl
  | cons entry rest ih =>
      simp only [insertEntry, List.map_cons, insertName]
      split
      · rfl
      · split
        · rename_i same
          simp [same]
        · simp [ih]

theorem lookupEntry_eq_none_of_lt {name : String} {l : List (String × α)}
    (below : ∀ x ∈ l.map Prod.fst, name < x) : lookupEntry name l = none := by
  induction l with
  | nil => rfl
  | cons entry rest ih =>
      have first : name < entry.1 := below _ (by simp)
      have ne : name ≠ entry.1 := fun same => String.lt_irrefl _ (same ▸ first)
      simp only [lookupEntry, if_neg ne]
      exact ih fun x member => below x (by simp [member])

theorem lookupEntry_isSome_iff {name : String} {l : List (String × α)} :
    (lookupEntry name l).isSome = true ↔ name ∈ l.map Prod.fst := by
  induction l with
  | nil => simp [lookupEntry]
  | cons entry rest ih =>
      simp only [lookupEntry, List.map_cons, List.mem_cons]
      split
      · rename_i same
        simp [same]
      · rename_i different
        simp [different, ih]

/-- An ascending list of entries is determined by its look-ups. -/
theorem eq_of_sorted_of_lookupEntry {l m : List (String × α)}
    (hl : (l.map Prod.fst).Pairwise (· < ·)) (hm : (m.map Prod.fst).Pairwise (· < ·))
    (same : ∀ x, lookupEntry x l = lookupEntry x m) : l = m := by
  induction l generalizing m with
  | nil =>
      cases m with
      | nil => rfl
      | cons e m =>
          have := same e.1
          simp [lookupEntry] at this
  | cons d l ih =>
      cases m with
      | nil =>
          have := same d.1
          simp [lookupEntry] at this
      | cons e m =>
          obtain ⟨dBelow, lTail⟩ := List.pairwise_cons.1 hl
          obtain ⟨eBelow, mTail⟩ := List.pairwise_cons.1 hm
          have atD : some d.2 = lookupEntry d.1 (e :: m) := by
            rw [← same d.1]
            simp [lookupEntry]
          have atE : lookupEntry e.1 (d :: l) = some e.2 := by
            rw [same e.1]
            simp [lookupEntry]
          have keys : d.1 = e.1 := by
            apply name_eq_of_not_lt
            · intro lt
              rw [lookupEntry_eq_none_of_lt] at atD
              · cases atD
              · intro x member
                rcases List.mem_cons.1 member with rfl | later
                · exact lt
                · exact String.lt_trans lt (eBelow x later)
            · intro lt
              rw [lookupEntry_eq_none_of_lt] at atE
              · cases atE
              · intro x member
                rcases List.mem_cons.1 member with rfl | later
                · exact lt
                · exact String.lt_trans lt (dBelow x later)
          have values : d.2 = e.2 := by
            simpa [lookupEntry, keys] using atD
          have heads : d = e := Prod.ext keys values
          subst heads
          refine congrArg _ (ih lTail mTail fun x => ?_)
          by_cases here : x = d.1
          · subst here
            rw [lookupEntry_eq_none_of_lt dBelow, lookupEntry_eq_none_of_lt eBelow]
          · simpa [lookupEntry, here] using same x

/-! ## Bindings -/

/-- A finite map from names, listed in ascending name order. -/
structure Bindings (α : Type u) where
  entries : List (String × α)
  sorted : (entries.map Prod.fst).Pairwise (· < ·)
deriving DecidableEq

namespace Bindings

def empty : Bindings α := ⟨[], sorted_nil⟩

instance : EmptyCollection (Bindings α) := ⟨empty⟩

/-- The value at a name, if there is one. -/
def get? (b : Bindings α) (name : String) : Option α :=
  lookupEntry name b.entries

/-- The map holds a value at the name. -/
def has (b : Bindings α) (name : String) : Bool :=
  (b.get? name).isSome

/-- Maps that answer every look-up alike are equal. -/
theorem ext_get? {a b : Bindings α} (same : ∀ x, a.get? x = b.get? x) : a = b := by
  cases a with
  | mk l hl =>
    cases b with
    | mk m hm =>
      congr
      exact eq_of_sorted_of_lookupEntry hl hm same

/-- The names at which the map holds a value. -/
def keys (b : Bindings α) : NameSet :=
  ⟨b.entries.map Prod.fst, b.sorted⟩

/-- Put a value at a name, replacing what is there. -/
def insert (b : Bindings α) (name : String) (value : α) : Bindings α :=
  ⟨insertEntry name value b.entries, by
    rw [map_fst_insertEntry]
    exact insertName_sorted name b.sorted⟩

/-- The map of a list of entries, of which a later one wins over an earlier. -/
def ofList (entries : List (String × α)) : Bindings α :=
  entries.foldl (fun b entry => b.insert entry.1 entry.2) ∅

/-- The entries of both maps; where both hold a value the first one's stays. -/
def union (a b : Bindings α) : Bindings α :=
  a.entries.foldr (fun entry acc => acc.insert entry.1 entry.2) b

/-- The entries whose names pass a test. -/
def restrict (keep : String → Bool) (b : Bindings α) : Bindings α :=
  ⟨b.entries.filter fun entry => keep entry.1, by
    have := b.sorted.filter keep
    rwa [List.filter_map] at this⟩

/-! ### Look-ups -/

@[simp] theorem get?_empty (x : String) : (∅ : Bindings α).get? x = none := rfl

@[simp] theorem get?_insert (b : Bindings α) (name x : String) (value : α) :
    (b.insert name value).get? x = if x = name then some value else b.get? x :=
  lookupEntry_insertEntry name x value b.entries

@[simp] theorem get?_union (a b : Bindings α) (x : String) :
    (a.union b).get? x = (a.get? x).or (b.get? x) := by
  show (a.entries.foldr (fun entry acc => acc.insert entry.1 entry.2) b).get? x
    = (lookupEntry x a.entries).or (b.get? x)
  induction a.entries with
  | nil => rfl
  | cons entry rest ih =>
      simp only [List.foldr_cons, get?_insert, lookupEntry]
      split <;> simp_all

@[simp] theorem get?_restrict (keep : String → Bool) (b : Bindings α) (x : String) :
    (b.restrict keep).get? x = if keep x then b.get? x else none := by
  show lookupEntry x (b.entries.filter fun entry => keep entry.1) = _
  unfold get?
  induction b.entries with
  | nil => simp [lookupEntry]
  | cons entry rest ih =>
      simp only [List.filter_cons, lookupEntry]
      by_cases here : x = entry.1
      · subst here
        by_cases kept : keep entry.1 = true
        · simp [kept, lookupEntry]
        · simp [kept, ih]
      · by_cases kept : keep entry.1 = true
        · simp [kept, lookupEntry, here, ih]
        · simp [kept, here, ih]

theorem mem_keys {b : Bindings α} {x : String} : x ∈ b.keys ↔ (b.get? x).isSome = true :=
  lookupEntry_isSome_iff.symm

theorem has_eq_true_iff {b : Bindings α} {x : String} : b.has x = true ↔ x ∈ b.keys :=
  mem_keys.symm

/-- An entry is listed exactly when its name holds its value. -/
theorem mem_entries_iff {b : Bindings α} {x : String} {a : α} :
    (x, a) ∈ b.entries ↔ b.get? x = some a := by
  obtain ⟨l, sorted⟩ := b
  show (x, a) ∈ l ↔ lookupEntry x l = some a
  induction l with
  | nil => simp [lookupEntry]
  | cons entry rest ih =>
      obtain ⟨below, tail⟩ := List.pairwise_cons.1 sorted
      simp only [List.mem_cons, lookupEntry, ih tail]
      by_cases here : x = entry.1
      · subst here
        rw [if_pos rfl, lookupEntry_eq_none_of_lt below]
        simp only [reduceCtorEq, or_false, Option.some.injEq]
        constructor
        · intro same
          rw [← same]
        · rintro rfl
          rfl
      · rw [if_neg here]
        refine or_iff_right fun same => here ?_
        rw [← same]

end Bindings

end TripleAlgebra
