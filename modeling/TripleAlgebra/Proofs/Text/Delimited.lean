/-
# TripleAlgebra.Proofs.Text.Delimited -- texts that show where their parts end

In a written query a part is followed by a space, by a closing parenthesis or by nothing.  A
word runs up to there, so it can be told from what follows (`append_inj_of_all`).  What can be
told apart in this way is said of one object and of all objects of its kind at once
(`Recognized`), and passes from the members of a list to the list in parentheses
(`recognized_parenthesized`).
-/
import TripleAlgebra.Algebra.Text

namespace TripleAlgebra.Text

set_option autoImplicit false

/-! ## Words -/

/-- A character that is neither a space nor a parenthesis. -/
def isPlain (c : Char) : Bool :=
  c != ' ' && c != '(' && c != ')'

/-- A text without spaces and parentheses. -/
def isWord (text : String) : Bool :=
  text.toList.all isPlain

/-- A word that stood before this text would end there. -/
def Stops (rest : List Char) : Prop :=
  ∀ c ∈ rest.head?, isPlain c = false

@[simp] theorem stops_nil : Stops [] := by
  simp [Stops]

@[simp] theorem stops_space (rest : List Char) : Stops (' ' :: rest) := by
  simp [Stops, isPlain]

@[simp] theorem stops_close (rest : List Char) : Stops (')' :: rest) := by
  simp [Stops, isPlain]

theorem takeWhile_append_of_all {p : Char → Bool} {word rest : List Char}
    (inside : word.all p = true) (outside : ∀ c ∈ rest.head?, p c = false) :
    (word ++ rest).takeWhile p = word := by
  rw [List.takeWhile_append_of_pos (List.all_eq_true.mp inside)]
  cases rest with
  | nil => simp
  | cons c rest => simp [outside c rfl]

/-- Characters of one class, followed by one that is not of it, can be told from what
follows. -/
theorem append_inj_of_all {p : Char → Bool} {u v r s : List Char} (left : u.all p = true)
    (right : v.all p = true) (stopsLeft : ∀ c ∈ r.head?, p c = false)
    (stopsRight : ∀ c ∈ s.head?, p c = false) (same : u ++ r = v ++ s) : u = v ∧ r = s := by
  have words : u = v := by
    rw [← takeWhile_append_of_all left stopsLeft, same, takeWhile_append_of_all right stopsRight]
  subst words
  exact ⟨rfl, List.append_cancel_left same⟩

/-- The word behind an opening parenthesis. -/
def keyword : List Char → List Char
  | '(' :: rest => rest.takeWhile isPlain
  | _ => []

theorem keyword_open {word : String} (plain : isWord word = true) {rest : List Char}
    (stops : Stops rest) : keyword ('(' :: (word.toList ++ rest)) = word.toList :=
  takeWhile_append_of_all plain stops

/-- Texts that begin with one word in a parenthesis have the same text behind it. -/
theorem operands_eq {word r s : List Char}
    (same : '(' :: (word ++ ' ' :: r) = '(' :: (word ++ ' ' :: s)) : r = s := by
  simpa using same

/-! ## Parts of a written query -/

section Parts

variable {α : Type} {legible : α → Bool} {write : α → String}

/-- No other legible object has a text that could be taken for that of `a`, whatever
follows either. -/
def Recognized (legible : α → Bool) (write : α → String) (a : α) : Prop :=
  ∀ ⦃b : α⦄ ⦃r s : List Char⦄, legible b = true → Stops r → Stops s →
    (write a).toList ++ r = (write b).toList ++ s → a = b ∧ r = s

/-- Objects are recognized by words of their own. -/
theorem recognized_of_word {a : α} (words : ∀ b, legible b = true → isWord (write b) = true)
    (distinct : ∀ b c, write b = write c → b = c) (readable : legible a = true) :
    Recognized legible write a := by
  intro b r s other stopsLeft stopsRight same
  obtain ⟨texts, rests⟩ :=
    append_inj_of_all (words a readable) (words b other) stopsLeft stopsRight same
  exact ⟨distinct a b (String.toList_inj.mp texts), rests⟩

/-- The texts of a list, each behind a space. -/
def spaced (write : α → String) (l : List α) : List Char :=
  l.flatMap fun a => ' ' :: (write a).toList

@[simp] theorem spaced_nil : spaced write [] = [] :=
  rfl

@[simp] theorem spaced_cons (a : α) (l : List α) :
    spaced write (a :: l) = ' ' :: ((write a).toList ++ spaced write l) := by
  simp [spaced]

theorem spaced_id_map (l : List α) : spaced id (l.map write) = spaced write l := by
  simp [spaced, List.flatMap_map]

theorem spaced_cons_append (text : String) (parts : List String) (rest : List Char) :
    spaced id (text :: parts) ++ rest = ' ' :: (text.toList ++ (spaced id parts ++ rest)) := by
  simp [spaced]

theorem spaced_single (text : String) (rest : List Char) :
    spaced id [text] ++ rest = ' ' :: (text.toList ++ rest) :=
  spaced_cons_append text [] rest

theorem stops_spaced (l : List α) (rest : List Char) :
    Stops (spaced write l ++ ')' :: rest) := by
  cases l <;> simp

/-- A list of recognized members is recognized, up to the closing parenthesis. -/
theorem spaced_cancel {l m : List α} {r s : List Char}
    (each : ∀ a ∈ l, Recognized legible write a) (readable : m.all legible = true)
    (same : spaced write l ++ ')' :: r = spaced write m ++ ')' :: s) : l = m ∧ r = s := by
  induction l generalizing m with
  | nil =>
      cases m with
      | nil => simpa using same
      | cons b m => simp at same
  | cons a l ih =>
      cases m with
      | nil => simp at same
      | cons b m =>
          rw [List.forall_mem_cons] at each
          rw [List.all_cons, Bool.and_eq_true] at readable
          simp only [spaced_cons, List.cons_append, List.append_assoc, List.cons.injEq,
            true_and] at same
          obtain ⟨rfl, rests⟩ := each.1 readable.1 (stops_spaced l r) (stops_spaced m s) same
          obtain ⟨rfl, ends⟩ := ih each.2 readable.2 rests
          exact ⟨rfl, ends⟩

theorem toList_intercalate_cons (first : String) (parts : List String) :
    (" ".intercalate (first :: parts)).toList = first.toList ++ spaced id parts := by
  induction parts generalizing first with
  | nil => simp
  | cons second parts ih => simp [String.intercalate_cons_cons, ih]

theorem toList_parenthesized_nil (rest : List Char) :
    (parenthesized []).toList ++ rest = '(' :: ')' :: rest :=
  rfl

theorem toList_parenthesized_cons (first : String) (parts : List String) (rest : List Char) :
    (parenthesized (first :: parts)).toList ++ rest =
      '(' :: (first.toList ++ (spaced id parts ++ ')' :: rest)) := by
  have inner := toList_intercalate_cons first parts
  simp only [parenthesized, String.toList_append, inner]
  simp

/-- A list in parentheses is recognized if its members are and none of them could be taken
for the end. -/
theorem recognized_parenthesized {l : List α} (each : ∀ a ∈ l, Recognized legible write a)
    (begun : ∀ a r s, (write a).toList ++ r ≠ ')' :: s) :
    Recognized (fun m => m.all legible) (fun m => parenthesized (m.map write)) l := by
  intro m r s readable _ _ same
  change (parenthesized (l.map write)).toList ++ r = (parenthesized (m.map write)).toList ++ s
    at same
  cases l with
  | nil =>
      cases m with
      | nil => exact ⟨rfl, List.append_cancel_left same⟩
      | cons b m =>
          rw [List.map_nil, List.map_cons, toList_parenthesized_nil, toList_parenthesized_cons,
            List.cons.injEq] at same
          exact absurd same.2.symm (begun b _ _)
  | cons a l =>
      cases m with
      | nil =>
          rw [List.map_nil, List.map_cons, toList_parenthesized_nil, toList_parenthesized_cons,
            List.cons.injEq] at same
          exact absurd same.2 (begun a _ _)
      | cons b m =>
          rw [List.map_cons, List.map_cons, toList_parenthesized_cons, toList_parenthesized_cons,
            spaced_id_map, spaced_id_map, List.cons.injEq] at same
          refine spaced_cancel each readable ?_
          simpa using same.2

end Parts

end TripleAlgebra.Text
