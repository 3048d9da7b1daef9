/-
# TripleAlgebra.Proofs.Pattern.Binding -- a triple read through a pattern

Reading a triple through a pattern binds exactly the names of the pattern
(`has_bind_iff`), each to the term at one of its places (`get?_bind_eq_some`); a triple
that is consistent has the same term at all of them (`get?_bind`).

Two facts make matching exact.  A triple is accepted under given terms exactly when it
fits the pattern and its bindings are compatible with the given ones
(`accepts_eq`), and triples that fit are told apart by their bindings
(`bind_injective`).
-/
import TripleAlgebra.Pattern

namespace TripleAlgebra

set_option autoImplicit false

universe u

/-! ## Maps made of lists -/

namespace Bindings

variable {α : Type u}

theorem get?_foldl_insert (entries : List (String × α)) (b : Bindings α) (x : String) (a : α)
    (found : (entries.foldl (fun acc entry => acc.insert entry.1 entry.2) b).get? x = some a) :
    (x, a) ∈ entries ∨ b.get? x = some a := by
  induction entries generalizing b with
  | nil => exact Or.inr found
  | cons entry rest ih =>
      rw [List.foldl_cons] at found
      rcases ih (b.insert entry.1 entry.2) found with member | before
      · exact Or.inl (List.mem_cons_of_mem _ member)
      · rw [get?_insert] at before
        split at before
        · rename_i same
          obtain rfl : entry = (x, a) := Prod.ext same.symm (Option.some.inj before)
          exact Or.inl List.mem_cons_self
        · exact Or.inr before

theorem isSome_get?_foldl_insert (entries : List (String × α)) (b : Bindings α) (x : String) :
    ((entries.foldl (fun acc entry => acc.insert entry.1 entry.2) b).get? x).isSome = true ↔
      x ∈ entries.map Prod.fst ∨ (b.get? x).isSome = true := by
  induction entries generalizing b with
  | nil => simp
  | cons entry rest ih =>
      rw [List.foldl_cons, ih, get?_insert, List.map_cons, List.mem_cons]
      by_cases here : x = entry.1
      · simp [here]
      · simp [here]

theorem mem_of_get?_ofList {entries : List (String × α)} {x : String} {a : α}
    (found : (ofList entries).get? x = some a) : (x, a) ∈ entries := by
  rcases get?_foldl_insert entries ∅ x a found with member | before
  · exact member
  · simp at before

theorem has_ofList {entries : List (String × α)} {x : String} :
    (ofList entries).has x = true ↔ x ∈ entries.map Prod.fst := by
  have := isSome_get?_foldl_insert entries ∅ x
  simpa [ofList, has] using this

end Bindings

namespace Pattern

variable {p : Pattern} {t u : Triple} {x : String} {q : Position}

/-! ## Names -/

theorem mem_names : x ∈ p.names ↔ ∃ q, p.get q = .var x := by
  simp only [names, NameSet.mem_ofList, slotNames, List.mem_filterMap]
  constructor
  · rintro ⟨q, -, named⟩
    refine ⟨q, ?_⟩
    cases slot : p.get q with
    | const term => simp [slot, Slot.name?] at named
    | var name => simp_all [Slot.name?]
  · rintro ⟨q, here⟩
    exact ⟨q, Position.mem_all q, by simp [here, Slot.name?]⟩

theorem isGround_iff : p.isGround = true ↔ ∀ q, ∃ term, p.get q = .const term := by
  simp only [isGround, slotNames, List.isEmpty_iff, List.filterMap_eq_nil_iff]
  constructor
  · intro none q
    have unnamed := none q (Position.mem_all q)
    cases slot : p.get q with
    | const term => exact ⟨term, rfl⟩
    | var name => simp [slot, Slot.name?] at unnamed
  · intro constants q _
    obtain ⟨term, here⟩ := constants q
    simp [here, Slot.name?]

/-! ## The bindings of a triple -/

theorem mem_bind_entries {a : Term} :
    (x, a) ∈ Position.all.filterMap
        (fun q => (p.get q).name?.map fun name => (name, t.get q)) ↔
      ∃ q, p.get q = .var x ∧ t.get q = a := by
  simp only [List.mem_filterMap, Option.map_eq_some_iff, Prod.mk.injEq]
  constructor
  · rintro ⟨q, -, name, named, rfl, carried⟩
    refine ⟨q, ?_, carried⟩
    cases slot : p.get q with
    | const term => simp [slot, Slot.name?] at named
    | var other => simp_all [Slot.name?]
  · rintro ⟨q, here, carried⟩
    exact ⟨q, Position.mem_all q, x, by simp [here, Slot.name?], rfl, carried⟩

/-- A name is bound to the term at one of its places. -/
theorem get?_bind_eq_some {a : Term} (bound : (p.bind t).get? x = some a) :
    ∃ q, p.get q = .var x ∧ t.get q = a :=
  mem_bind_entries.1 (Bindings.mem_of_get?_ofList bound)

/-- A triple binds the names of the pattern and no others. -/
theorem has_bind_iff : (p.bind t).has x = true ↔ x ∈ p.names := by
  rw [bind, Bindings.has_ofList, mem_names, List.mem_map]
  constructor
  · rintro ⟨⟨name, a⟩, member, rfl⟩
    obtain ⟨q, here, -⟩ := mem_bind_entries.1 member
    exact ⟨q, here⟩
  · rintro ⟨q, here⟩
    exact ⟨(x, t.get q), mem_bind_entries.2 ⟨q, here, rfl⟩, rfl⟩

/-- Without variables nothing is bound. -/
theorem bind_eq_empty (ground : p.isGround = true) (t : Triple) : p.bind t = ∅ := by
  refine Bindings.ext_get? ?_
  intro x
  have unbound : ¬ (p.bind t).has x = true := by
    rw [has_bind_iff, mem_names]
    rintro ⟨q, here⟩
    obtain ⟨term, constant⟩ := isGround_iff.1 ground q
    cases here.symm.trans constant
  simpa [Bindings.has] using unbound

theorem isConsistent_iff :
    p.isConsistent t = true ↔
      ∀ q r name, p.get q = .var name → p.get r = .var name → t.get r = t.get q := by
  simp only [isConsistent, List.all_eq_true]
  constructor
  · intro all q r name first second
    have atQ := all q (Position.mem_all q)
    simp only [first, List.all_eq_true] at atQ
    simpa using atQ r (mem_positions.2 second)
  · intro repeats q _
    split
    · rfl
    · rename_i name first
      simp only [List.all_eq_true]
      intro r member
      simpa using repeats q r name first (mem_positions.1 member)

theorem isConsistent_of_fits (fits : p.fits t = true) : p.isConsistent t = true :=
  isConsistent_iff.2 (fits_iff.1 fits).2

/-- In a consistent triple every place of a name carries the term bound to it. -/
theorem get?_bind (consistent : p.isConsistent t = true) (here : p.get q = .var x) :
    (p.bind t).get? x = some (t.get q) := by
  have bound : (p.bind t).has x = true := has_bind_iff.2 (mem_names.2 ⟨q, here⟩)
  obtain ⟨a, found⟩ := Option.isSome_iff_exists.1 bound
  obtain ⟨r, there, carried⟩ := get?_bind_eq_some found
  rw [found, ← carried, isConsistent_iff.1 consistent q r x here there]

/-- Triples that fit and are read alike are the same triple. -/
theorem bind_injective (first : p.fits t = true) (second : p.fits u = true)
    (same : p.bind t = p.bind u) : t = u := by
  refine Triple.ext_get ?_
  intro q
  cases slot : p.get q with
  | const term =>
      rw [(fits_iff.1 first).1 q term slot, (fits_iff.1 second).1 q term slot]
  | var name =>
      have atT := get?_bind (isConsistent_of_fits first) slot
      have atU := get?_bind (isConsistent_of_fits second) slot
      rw [same, atU] at atT
      exact (Option.some.inj atT).symm

/-! ## Given terms -/

theorem accepts_iff {given : Solution} :
    p.accepts given t = true ↔
      (∀ q term, p.known given q = some term → t.get q = term) ∧ p.isConsistent t = true := by
  simp only [accepts, Bool.and_eq_true, List.all_eq_true]
  refine and_congr_left ?_
  intro _
  constructor
  · intro all q term known
    have atQ := all q (Position.mem_all q)
    simpa [known] using atQ
  · intro carried q _
    split
    · rename_i term known
      simpa using carried q term known
    · rfl

/-- **A triple is accepted under given terms when it fits and what it binds is
compatible with them.** -/
theorem accepts_eq (given : Solution) (t : Triple) :
    p.accepts given t = (p.fits t && given.compatible (p.bind t)) := by
  rw [Bool.eq_iff_iff, accepts_iff, Bool.and_eq_true, fits_iff, Solution.compatible_iff]
  constructor
  · rintro ⟨carried, consistent⟩
    refine ⟨⟨fun q term slot => carried q term (by simp [known, slot]),
      isConsistent_iff.1 consistent⟩, ?_⟩
    intro x a b wanted bound
    obtain ⟨q, here, rfl⟩ := get?_bind_eq_some bound
    exact (carried q a (by simp [known, here, wanted])).symm
  · rintro ⟨⟨constants, repeats⟩, agree⟩
    have consistent : p.isConsistent t = true := isConsistent_iff.2 repeats
    refine ⟨fun q term known => ?_, consistent⟩
    unfold Pattern.known at known
    cases slot : p.get q with
    | const other =>
        simp only [slot, Option.some.injEq] at known
        rw [constants q other slot, known]
    | var name =>
        simp only [slot] at known
        exact (agree name term _ known (get?_bind consistent slot)).symm

end Pattern

end TripleAlgebra
