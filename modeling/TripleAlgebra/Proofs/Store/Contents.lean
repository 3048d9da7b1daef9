/-
# TripleAlgebra.Proofs.Store.Contents -- a store answers like its list of triples

A store holds its triples once and leads to them through seven indexes.  One invariant
says that these agree (`Store.Consistent`): the triples are distinct, the primary index
maps each to its slot, and each of the other indexes has under every key the slots of
the triples with that key, in ascending order (`SlotIndex.Tracks`).  An insert keeps it
(`consistent_insert`), so the slots behind an access lead to the triples with its key
(`map_getElem?_slotsOf`) and every scan is a filter of the list (`scan_eq_filter`).

A store filled triple by triple holds the first occurrences (`triples_ofTriples`), and
as a dataset it is the list of them, read from front to back (`dataset_ofTriples`).
-/
import Mathlib.Data.List.Induction
import TripleAlgebra.Dataset.Store
import TripleAlgebra.Proofs.Duplicates

namespace TripleAlgebra

set_option autoImplicit false

/-! ## One index -/

namespace SlotIndex

variable {κ : Type} [BEq κ] [LawfulBEq κ] [Hashable κ]

/-- Under every key the index has the slots of the triples with that key, in ascending
order. -/
def Tracks (index : SlotIndex κ) (keyOf : Triple → κ) (triples : List Triple) : Prop :=
  ∀ key, (slots index key).toList =
    (triples.zipIdx.filter fun entry => keyOf entry.1 == key).map Prod.snd

omit [LawfulBEq κ] in
theorem tracks_empty (keyOf : Triple → κ) : Tracks ∅ keyOf [] := by
  intro key
  simp [slots]

/-- Entering the next slot under the key of its triple. -/
theorem tracks_enter {index : SlotIndex κ} {keyOf : Triple → κ} {triples : List Triple}
    (tracks : Tracks index keyOf triples) (t : Triple) :
    Tracks (enter index (keyOf t) triples.length) keyOf (triples ++ [t]) := by
  intro key
  have before := tracks key
  simp only [slots] at before ⊢
  simp only [enter, Std.HashMap.getD_alter, List.zipIdx_append, List.filter_append,
    List.map_append, ← before]
  by_cases here : keyOf t = key
  · subst here
    simp [Std.HashMap.getD_eq_getD_getElem?]
  · simp [here]

end SlotIndex

/-! ## The store -/

namespace Store

/-- The triples are distinct, and every index agrees with them. -/
structure Consistent (s : Store) : Prop where
  nodup : s.triples.toList.Nodup
  primary : ∀ (t : Triple) (slot : Nat), s.primary[t]? = some slot ↔ s.triples[slot]? = some t
  bySubject : SlotIndex.Tracks s.bySubject (fun t => t.subject) s.triples.toList
  byPredicate : SlotIndex.Tracks s.byPredicate (fun t => t.predicate) s.triples.toList
  byObject : SlotIndex.Tracks s.byObject (fun t => t.object) s.triples.toList
  bySubjectPredicate :
    SlotIndex.Tracks s.bySubjectPredicate (fun t => (t.subject, t.predicate)) s.triples.toList
  bySubjectObject :
    SlotIndex.Tracks s.bySubjectObject (fun t => (t.subject, t.object)) s.triples.toList
  byPredicateObject :
    SlotIndex.Tracks s.byPredicateObject (fun t => (t.predicate, t.object)) s.triples.toList

theorem consistent_empty : empty.Consistent where
  nodup := List.nodup_nil
  primary t slot := by simp [empty]
  bySubject := SlotIndex.tracks_empty _
  byPredicate := SlotIndex.tracks_empty _
  byObject := SlotIndex.tracks_empty _
  bySubjectPredicate := SlotIndex.tracks_empty _
  bySubjectObject := SlotIndex.tracks_empty _
  byPredicateObject := SlotIndex.tracks_empty _

/-- The primary index knows exactly the triples of the list. -/
theorem Consistent.contains_iff {s : Store} (consistent : s.Consistent) (t : Triple) :
    s.contains t = true ↔ t ∈ s.triples.toList := by
  rw [contains, Std.HashMap.contains_eq_isSome_getElem?, Option.isSome_iff_exists,
    Array.mem_toList_iff, Array.mem_iff_getElem?]
  simp only [consistent.primary]

theorem Consistent.primary_insert {s : Store} (consistent : s.Consistent) {t : Triple}
    (new : t ∉ s.triples.toList) (u : Triple) (slot : Nat) :
    (s.primary.insert t s.triples.size)[u]? = some slot ↔
      (s.triples.push t)[slot]? = some u := by
  have absent : ∀ i : Nat, s.triples[i]? ≠ some t := by
    intro i found
    exact new (Array.mem_toList_iff.2 (Array.mem_of_getElem? found))
  rw [Std.HashMap.getElem?_insert, Array.getElem?_push]
  by_cases same : t = u
  · subst same
    by_cases here : slot = s.triples.size
    · simp [here]
    · simp [here, absent slot, Ne.symm here]
  · by_cases here : slot = s.triples.size
    · subst here
      simp [same, consistent.primary]
    · simp [same, here, consistent.primary]

/-- An insert keeps all indexes in agreement with the triples. -/
theorem consistent_insert {s : Store} (consistent : s.Consistent) (t : Triple) :
    (s.insert t).Consistent := by
  unfold insert
  split
  · exact consistent
  · rename_i absent
    have new : t ∉ s.triples.toList := fun member => absent ((consistent.contains_iff t).2 member)
    have size : s.triples.size = s.triples.toList.length := Array.length_toList.symm
    constructor
    · simp only [Array.toList_push]
      rw [List.nodup_append]
      refine ⟨consistent.nodup, List.nodup_singleton t, ?_⟩
      intro u inside v single
      rintro rfl
      exact new (List.mem_singleton.1 single ▸ inside)
    · exact consistent.primary_insert new
    all_goals
      simp only [Array.toList_push, size]
    · exact SlotIndex.tracks_enter consistent.bySubject t
    · exact SlotIndex.tracks_enter consistent.byPredicate t
    · exact SlotIndex.tracks_enter consistent.byObject t
    · exact SlotIndex.tracks_enter consistent.bySubjectPredicate t
    · exact SlotIndex.tracks_enter consistent.bySubjectObject t
    · exact SlotIndex.tracks_enter consistent.byPredicateObject t

theorem consistent_ofTriples (triples : List Triple) : (ofTriples triples).Consistent := by
  induction triples using List.reverseRecOn with
  | nil => exact consistent_empty
  | append_singleton rest t ih =>
      rw [ofTriples, List.foldl_concat]
      exact consistent_insert ih t

/-! ## Scans -/

/-- The slots that an index has under a key lead, one by one, to the triples with that
key. -/
theorem map_getElem?_slots {κ : Type} [BEq κ] [LawfulBEq κ] [Hashable κ] {s : Store}
    {index : SlotIndex κ} {keyOf : Triple → κ}
    (tracks : SlotIndex.Tracks index keyOf s.triples.toList) (key : κ) :
    (SlotIndex.slots index key).toList.map (fun slot => s.triples[slot]?) =
      (s.triples.toList.filter fun t => keyOf t == key).map some := by
  have atSlot : ∀ entry ∈ s.triples.toList.zipIdx.filter (fun entry => keyOf entry.1 == key),
      s.triples[entry.2]? = some entry.1 := by
    intro entry member
    have := List.mem_zipIdx_iff_getElem?.1 (List.mem_filter.1 member).1
    rwa [Array.getElem?_toList] at this
  have fits : (fun entry : Triple × Nat => keyOf entry.1 == key) =
      (fun t => keyOf t == key) ∘ Prod.fst := rfl
  rw [tracks key, List.map_map]
  calc List.map ((fun slot => s.triples[slot]?) ∘ Prod.snd) _
      = List.map (fun entry => some entry.1)
          (s.triples.toList.zipIdx.filter fun entry => keyOf entry.1 == key) :=
        List.map_congr_left atSlot
    _ = ((s.triples.toList.zipIdx.filter ((fun t => keyOf t == key) ∘ Prod.fst)).map
          Prod.fst).map some := by
        rw [fits, List.map_map]
        rfl
    _ = (s.triples.toList.filter fun t => keyOf t == key).map some := by
        rw [← List.filter_map, List.zipIdx_map_fst]

theorem map_getElem?_range (s : Store) :
    (List.range s.size).map (fun slot => s.triples[slot]?) = s.triples.toList.map some := by
  refine List.ext_getElem (by simp [size]) ?_
  intro slot inRange inList
  simp only [List.length_map, Array.length_toList] at inList
  simp [inList]

/-- The slots that are looked at for an access, in order. -/
def slotsOf (s : Store) : Access → List Nat
  | .bySubject a => (SlotIndex.slots s.bySubject a).toList
  | .byPredicate a => (SlotIndex.slots s.byPredicate a).toList
  | .byObject a => (SlotIndex.slots s.byObject a).toList
  | .bySubjectPredicate a b => (SlotIndex.slots s.bySubjectPredicate (a, b)).toList
  | .bySubjectObject a b => (SlotIndex.slots s.bySubjectObject (a, b)).toList
  | .byPredicateObject a b => (SlotIndex.slots s.byPredicateObject (a, b)).toList
  | .all => List.range s.size

/-- A scan gives what stands in its slots. -/
theorem scan_eq_filterMap_slotsOf (s : Store) (access : Access) :
    s.scan access = ((s.slotsOf access).map fun slot => s.triples[slot]?).filterMap id := by
  rw [List.filterMap_map]
  cases access with
  | all =>
      have through := congrArg (List.filterMap id) s.map_getElem?_range
      rw [List.filterMap_map, List.filterMap_map] at through
      rw [scan, slotsOf, through]
      exact List.filterMap_some.symm
  | bySubject a => rfl
  | byPredicate a => rfl
  | byObject a => rfl
  | bySubjectPredicate a b => rfl
  | bySubjectObject a b => rfl
  | byPredicateObject a b => rfl

theorem filter_eq_of_iff {α : Type} {p q : α → Bool} (same : ∀ a, p a = true ↔ q a = true)
    (l : List α) : l.filter p = l.filter q := by
  have agree : p = q := funext fun a => Bool.eq_iff_iff.2 (same a)
  rw [agree]

/-- **In the slots of an access stand the triples that carry its key**, each once and in
the order in which they came. -/
theorem map_getElem?_slotsOf {s : Store} (consistent : s.Consistent) (access : Access) :
    (s.slotsOf access).map (fun slot => s.triples[slot]?) =
      (s.triples.toList.filter access.admits).map some := by
  cases access with
  | bySubject a =>
      refine (map_getElem?_slots consistent.bySubject a).trans (congrArg _ ?_)
      exact filter_eq_of_iff (fun t => by simp [Access.admits_eq_true_iff, Access.key, Triple.get]) _
  | byPredicate a =>
      refine (map_getElem?_slots consistent.byPredicate a).trans (congrArg _ ?_)
      exact filter_eq_of_iff (fun t => by simp [Access.admits_eq_true_iff, Access.key, Triple.get]) _
  | byObject a =>
      refine (map_getElem?_slots consistent.byObject a).trans (congrArg _ ?_)
      exact filter_eq_of_iff (fun t => by simp [Access.admits_eq_true_iff, Access.key, Triple.get]) _
  | bySubjectPredicate a b =>
      refine (map_getElem?_slots consistent.bySubjectPredicate (a, b)).trans (congrArg _ ?_)
      exact filter_eq_of_iff (fun t => by simp [Access.admits_eq_true_iff, Access.key, Triple.get]) _
  | bySubjectObject a b =>
      refine (map_getElem?_slots consistent.bySubjectObject (a, b)).trans (congrArg _ ?_)
      exact filter_eq_of_iff (fun t => by simp [Access.admits_eq_true_iff, Access.key, Triple.get]) _
  | byPredicateObject a b =>
      refine (map_getElem?_slots consistent.byPredicateObject (a, b)).trans (congrArg _ ?_)
      exact filter_eq_of_iff (fun t => by simp [Access.admits_eq_true_iff, Access.key, Triple.get]) _
  | all =>
      have all : s.triples.toList.filter (Access.admits .all) = s.triples.toList :=
        List.filter_eq_self.2 fun t _ => rfl
      rw [all]
      exact s.map_getElem?_range

/-- **A scan gives the triples that carry its key**, in the order in which they came. -/
theorem scan_eq_filter {s : Store} (consistent : s.Consistent) (access : Access) :
    s.scan access = s.triples.toList.filter access.admits := by
  rw [scan_eq_filterMap_slotsOf, map_getElem?_slotsOf consistent, List.filterMap_map]
  exact List.filterMap_some

theorem triples_insert {s : Store} (consistent : s.Consistent) (t : Triple) :
    (s.insert t).triples.toList =
      if t ∈ s.triples.toList then s.triples.toList else s.triples.toList ++ [t] := by
  unfold insert
  by_cases present : s.contains t = true
  · rw [if_pos present, if_pos ((consistent.contains_iff t).1 present)]
  · rw [if_neg present, if_neg (mt (consistent.contains_iff t).2 present)]
    simp

/-- A store that was filled from a list holds the list's first occurrences. -/
theorem triples_ofTriples (triples : List Triple) :
    (ofTriples triples).triples.toList = triples.eraseDups := by
  induction triples using List.reverseRecOn with
  | nil => rfl
  | append_singleton rest t ih =>
      have step : ofTriples (rest ++ [t]) = (ofTriples rest).insert t := List.foldl_concat ..
      rw [step, triples_insert (consistent_ofTriples rest), ih, eraseDups_concat]
      simp only [List.mem_eraseDups]

end Store

/-! ## Lists as datasets -/

/-- The dataset that reads a list of triples from front to back for every call. -/
def Dataset.listing (triples : List Triple) : Dataset where
  scan access := .ok (triples.filter access.admits)
  contains t := .ok (decide (t ∈ triples))

/-- **A store that was filled from a list is, as a dataset, the list's first
occurrences.** -/
theorem Store.dataset_ofTriples (triples : List Triple) :
    (Store.ofTriples triples).dataset = Dataset.listing triples.eraseDups := by
  have consistent := consistent_ofTriples triples
  unfold dataset Dataset.listing
  congr 1
  · funext access
    rw [scan_eq_filter consistent, triples_ofTriples]
  · funext t
    have known := consistent.contains_iff t
    rw [triples_ofTriples] at known
    rw [Bool.eq_iff_iff.2 (known.trans (decide_eq_true_iff.symm))]

end TripleAlgebra
