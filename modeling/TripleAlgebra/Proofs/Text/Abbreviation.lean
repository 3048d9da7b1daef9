/-
# TripleAlgebra.Proofs.Text.Abbreviation -- short names are the longest that fit, and are unique

An abbreviation fits an IRI that is its base with a plain name behind it.  The one that is used has
the longest base among the registered ones that fit, and is the last with that base
(`Prevails`, `prevails_of_choose?`); a longer base that does not fit is not in its way.

A plain name has neither a colon nor an angle bracket.  So the last colon of a short form divides
label and name, and no short form ends like an IRI in brackets.  Where every label stands for one
base only, both forms tell which IRI was written (`eq_of_format_eq`).
-/
import Mathlib.Data.List.Basic
import Mathlib.Data.List.Induction
import TripleAlgebra.Abbreviation
import TripleAlgebra.Proofs.Text.Delimited

namespace TripleAlgebra.Abbreviation

set_option autoImplicit false

variable {registered : List Abbreviation} {a b : Abbreviation} {iri name : String}

/-! ## Abbreviations that fit -/

/-- A plain name. -/
def IsPlainName (name : String) : Prop :=
  name ≠ "" ∧ ∀ c ∈ name.toList, isNameChar c = true

/-- The IRI is the base of the abbreviation with the plain name behind it. -/
def Fits (a : Abbreviation) (iri name : String) : Prop :=
  iri = a.base ++ name ∧ IsPlainName name

theorem Fits.name_unique {name' : String} (first : a.Fits iri name) (second : a.Fits iri name') :
    name = name' :=
  String.append_right_inj a.base |>.1 (first.1.symm.trans second.1)

theorem isName_toList_iff : isName name.toList = true ↔ IsPlainName name := by
  simp [isName, IsPlainName]

theorem remainder?_eq_some_iff {text : List Char} :
    a.remainder? iri = some text ↔ a.Fits iri (String.ofList text) := by
  rw [remainder?, Option.filter_eq_some_iff, List.isPrefixOf?_eq_some_iff_append_eq, Fits,
    ← isName_toList_iff, String.toList_ofList, ← String.toList_inj, String.toList_append,
    String.toList_ofList]
  exact and_congr_left fun _ => eq_comm

theorem shorten?_of_fits (fits : a.Fits iri name) :
    a.shorten? iri = some (a.label ++ ":" ++ name) := by
  have remainder : a.remainder? iri = some name.toList := by
    rwa [remainder?_eq_some_iff, String.ofList_toList]
  rw [shorten?, remainder, Option.map_some, String.ofList_toList]

theorem isSome_remainder?_iff :
    (a.remainder? iri).isSome = true ↔ ∃ name, a.Fits iri name := by
  rw [Option.isSome_iff_exists]
  constructor
  · rintro ⟨text, remainder⟩
    exact ⟨_, remainder?_eq_some_iff.1 remainder⟩
  · rintro ⟨name, fits⟩
    exact ⟨name.toList, by rwa [remainder?_eq_some_iff, String.ofList_toList]⟩

/-! ## The abbreviation that is used -/

/-- The abbreviation is registered, and of those that fit the IRI none has a longer base and no
later one an equally long base.  Bases that fit all begin the same IRI, so any measure of their
length would tell the longer one. -/
def Prevails (registered : List Abbreviation) (iri : String) (a : Abbreviation) : Prop :=
  ∃ before after, registered = before ++ a :: after ∧
    (∀ b ∈ before, ∀ name, b.Fits iri name → b.base.length ≤ a.base.length) ∧
    ∀ b ∈ after, ∀ name, b.Fits iri name → b.base.length < a.base.length

theorem Prevails.mem (prevails : Prevails registered iri a) : a ∈ registered := by
  obtain ⟨before, after, rfl, -, -⟩ := prevails
  exact List.mem_append_right before List.mem_cons_self

theorem Prevails.length_le (prevails : Prevails registered iri a) (inside : b ∈ registered)
    (fits : b.Fits iri name) : b.base.length ≤ a.base.length := by
  obtain ⟨before, after, rfl, atMost, less⟩ := prevails
  rcases List.mem_append.1 inside with earlier | here
  · exact atMost b earlier name fits
  · rcases List.mem_cons.1 here with rfl | later
    · exact Nat.le_refl _
    · exact Nat.le_of_lt (less b later name fits)

/-- Only one of the abbreviations that fit prevails. -/
theorem Prevails.unique (first : Prevails registered iri a) (second : Prevails registered iri b)
    (fitsFirst : a.Fits iri name) {name' : String} (fitsSecond : b.Fits iri name') : a = b := by
  have notLess := second.length_le first.mem fitsFirst
  have notGreater := first.length_le second.mem fitsSecond
  obtain ⟨before, after, rfl, -, less⟩ := first
  obtain ⟨before', after', same, -, less'⟩ := second
  -- if they stood at different places, the later one would have a shorter base
  rcases List.append_eq_append_iff.1 same with ⟨between, -, rest⟩ | ⟨between, -, rest⟩
  · rcases List.cons_eq_append_iff.1 rest with ⟨-, here⟩ | ⟨_, -, behind⟩
    · exact (List.cons.inj here).1.symm
    · have := less b (by simp [behind]) name' fitsSecond
      omega
  · rcases List.cons_eq_append_iff.1 rest with ⟨-, here⟩ | ⟨_, -, behind⟩
    · exact (List.cons.inj here).1
    · have := less' a (by simp [behind]) name fitsFirst
      omega

/-- A later registration that has a shorter base, or does not fit, changes nothing. -/
theorem Prevails.concat (prevails : Prevails registered iri a)
    (less : ∀ name, b.Fits iri name → b.base.length < a.base.length) :
    Prevails (registered ++ [b]) iri a := by
  obtain ⟨before, after, rfl, atMost, lessAfter⟩ := prevails
  refine ⟨before, after ++ [b], by simp, atMost, ?_⟩
  intro c inside name fits
  rcases List.mem_append.1 inside with earlier | last
  · exact lessAfter c earlier name fits
  · obtain rfl := List.mem_singleton.1 last
    exact less name fits

/-- A last registration that no earlier one surpasses prevails. -/
theorem prevails_concat_self
    (atMost : ∀ b ∈ registered, ∀ name, b.Fits iri name → b.base.length ≤ a.base.length) :
    Prevails (registered ++ [a]) iri a :=
  ⟨registered, [], rfl, atMost, by simp⟩

theorem choose?_concat_of_fits (fits : a.Fits iri name) :
    choose? (registered ++ [a]) iri =
      some ((choose? registered iri).elim a fun b => b.longer a) := by
  have kept : [a].filter (fun b => (b.remainder? iri).isSome) = [a] :=
    List.filter_cons_of_pos (isSome_remainder?_iff.2 ⟨name, fits⟩)
  unfold choose?
  rw [List.filter_append, List.foldl_append, kept, List.foldl_cons, List.foldl_nil]
  split
  · rename_i b best
    rw [best, Option.elim_some]
  · rename_i best
    rw [best, Option.elim_none]

theorem choose?_concat_of_not_fits (unfit : ¬ ∃ name, a.Fits iri name) :
    choose? (registered ++ [a]) iri = choose? registered iri := by
  have dropped : [a].filter (fun b => (b.remainder? iri).isSome) = [] :=
    List.filter_cons_of_neg (mt isSome_remainder?_iff.1 unfit)
  unfold choose?
  rw [List.filter_append, dropped, List.append_nil]

theorem choose?_eq_none_iff :
    choose? registered iri = none ↔ ∀ b ∈ registered, ¬ ∃ name, b.Fits iri name := by
  induction registered using List.reverseRecOn with
  | nil => simp [choose?]
  | append_singleton registered c ih =>
      by_cases fits : ∃ name, c.Fits iri name
      · obtain ⟨name, fitsName⟩ := fits
        rw [choose?_concat_of_fits fitsName]
        constructor
        · intro none
          cases none
        · intro unfit
          exact absurd ⟨name, fitsName⟩ (unfit c (by simp))
      · rw [choose?_concat_of_not_fits fits, ih, List.forall_mem_append]
        refine (and_iff_left ?_).symm
        intro b inside
        rwa [List.mem_singleton.1 inside]

/-- **What is chosen fits and is the longest, and the last of those.** -/
theorem prevails_of_choose? (chosen : choose? registered iri = some a) :
    Prevails registered iri a ∧ ∃ name, a.Fits iri name := by
  induction registered using List.reverseRecOn generalizing a with
  | nil => cases chosen
  | append_singleton registered c ih =>
      by_cases fits : ∃ name, c.Fits iri name
      · obtain ⟨name, fitsName⟩ := fits
        rw [choose?_concat_of_fits fitsName, Option.some.injEq] at chosen
        cases earlier : choose? registered iri with
        | none =>
            -- nothing fitted so far
            obtain rfl : c = a := by rwa [earlier] at chosen
            refine ⟨prevails_concat_self ?_, name, fitsName⟩
            intro b inside n fitsB
            exact absurd ⟨n, fitsB⟩ (choose?_eq_none_iff.1 earlier b inside)
        | some b =>
            obtain ⟨prevails, fitsB⟩ := ih earlier
            rw [earlier, Option.elim_some, longer] at chosen
            split at chosen
            · obtain rfl := chosen
              rename_i shorter
              exact ⟨prevails.concat fun _ _ => shorter, fitsB⟩
            · obtain rfl := chosen
              rename_i notShorter
              refine ⟨prevails_concat_self ?_, name, fitsName⟩
              intro d inside n fitsD
              exact Nat.le_trans (prevails.length_le inside fitsD) (Nat.le_of_not_lt notShorter)
      · rw [choose?_concat_of_not_fits fits] at chosen
        obtain ⟨prevails, fitsA⟩ := ih chosen
        exact ⟨prevails.concat fun name fitsC => absurd ⟨name, fitsC⟩ fits, fitsA⟩

/-- **An IRI is written in short by the longest abbreviation that fits, and in brackets if none
does.** -/
theorem format_iri_cases (registered : List Abbreviation) (iri : String) :
    (∃ a name, Prevails registered iri a ∧ a.Fits iri name ∧
      format registered (.iri iri) = a.label ++ ":" ++ name) ∨
    ((∀ a ∈ registered, ¬ ∃ name, a.Fits iri name) ∧
      format registered (.iri iri) = bracketed iri) := by
  cases chosen : choose? registered iri with
  | some a =>
      obtain ⟨prevails, name, fits⟩ := prevails_of_choose? chosen
      refine Or.inl ⟨a, name, prevails, fits, ?_⟩
      rw [format, chosen, Option.bind_some, shorten?_of_fits fits, Option.getD_some]
  | none =>
      refine Or.inr ⟨choose?_eq_none_iff.1 chosen, ?_⟩
      rw [format, chosen, Option.bind_none, Option.getD_none]

/-! ## Reading the forms -/

/-- What is neither a letter nor a digit is in no name, but for the underscore and the hyphen. -/
theorem isNameChar_of_punctuation {c : Char} (other : Text.isAlphanumeric c = false)
    (noUnderscore : c ≠ '_') (noHyphen : c ≠ '-') : isNameChar c = false := by
  rw [Bool.eq_false_iff, ne_eq, isNameChar_iff]
  rintro (alphanumeric | same | same)
  · rw [other] at alphanumeric
    cases alphanumeric
  · exact noUnderscore same
  · exact noHyphen same

theorem isNameChar_colon : isNameChar ':' = false :=
  isNameChar_of_punctuation (by decide +kernel) (by decide) (by decide)

theorem isNameChar_close : isNameChar '>' = false :=
  isNameChar_of_punctuation (by decide +kernel) (by decide) (by decide)

variable {label label' name' : String}

/-- The last colon of a short form divides label and name. -/
theorem short_inj (plain : IsPlainName name) (plain' : IsPlainName name')
    (same : label ++ ":" ++ name = label' ++ ":" ++ name') : label = label' ∧ name = name' := by
  -- read from the end, the name runs up to the first colon
  have backwards : name.toList.reverse ++ ':' :: label.toList.reverse =
      name'.toList.reverse ++ ':' :: label'.toList.reverse := by
    simpa using congrArg (fun text => text.toList.reverse) same
  obtain ⟨names, rests⟩ := Text.append_inj_of_all (p := isNameChar)
    (by simpa using plain.2) (by simpa using plain'.2) (by simp [isNameChar_colon])
    (by simp [isNameChar_colon]) backwards
  exact ⟨String.toList_inj.1 (List.reverse_inj.1 (List.cons.inj rests).2),
    String.toList_inj.1 (List.reverse_inj.1 names)⟩

theorem getLast?_bracketed (iri : String) : (bracketed iri).toList.getLast? = some '>' := by
  rw [bracketed, String.toList_append]
  exact List.getLast?_concat

/-- A short form ends in a character of a name, and an IRI in brackets does not. -/
theorem short_ne_bracketed (plain : IsPlainName name) :
    label ++ ":" ++ name ≠ bracketed iri := by
  intro same
  have nonempty : name.toList ≠ [] := mt String.toList_eq_nil_iff.1 plain.1
  have last : (label ++ ":" ++ name).toList.getLast? = some (name.toList.getLast nonempty) := by
    rw [String.toList_append, List.getLast?_append_of_ne_nil _ nonempty,
      List.getLast?_eq_some_getLast nonempty]
  rw [same, getLast?_bracketed, Option.some.injEq] at last
  have inName := plain.2 _ (List.getLast_mem nonempty)
  rw [← last, isNameChar_close] at inName
  cases inName

theorem bracketed_inj {i j : String} (same : bracketed i = bracketed j) : i = j := by
  have texts := congrArg String.toList same
  simpa [bracketed, String.toList_inj] using texts

/-- **Where no label stands for two bases, what is written tells the IRI.** -/
theorem eq_of_format_eq
    (distinct : ∀ a ∈ registered, ∀ b ∈ registered, a.label = b.label → a.base = b.base)
    {i j : String} (same : format registered (.iri i) = format registered (.iri j)) : i = j := by
  rcases format_iri_cases registered i with
    ⟨a, name, chosen, fits, written⟩ | ⟨-, written⟩ <;>
  rcases format_iri_cases registered j with
    ⟨b, name', chosen', fits', written'⟩ | ⟨-, written'⟩ <;>
  rw [written, written'] at same
  · obtain ⟨labels, rfl⟩ := short_inj fits.2 fits'.2 same
    rw [fits.1, fits'.1, distinct a chosen.mem b chosen'.mem labels]
  · exact absurd same (short_ne_bracketed fits.2)
  · exact absurd same.symm (short_ne_bracketed fits'.2)
  · exact bracketed_inj same

/-- **Short names have the longest base that fits, and can be read back.**  An IRI that some
registered abbreviation fits is written as label, colon and name of the one that prevails; an IRI
is written in brackets exactly if none fits it.  If no label is registered with two bases,
different IRIs are written differently. -/
theorem format_longest_reversible (registered : List Abbreviation) :
    (∀ iri a name, Prevails registered iri a → a.Fits iri name →
      format registered (.iri iri) = a.label ++ ":" ++ name) ∧
    (∀ iri, (∃ a ∈ registered, ∃ name, a.Fits iri name) →
      ∃ a name, Prevails registered iri a ∧ a.Fits iri name) ∧
    (∀ iri, format registered (.iri iri) = bracketed iri ↔
      ¬ ∃ a ∈ registered, ∃ name, a.Fits iri name) ∧
    ((∀ a ∈ registered, ∀ b ∈ registered, a.label = b.label → a.base = b.base) →
      ∀ i j, format registered (.iri i) = format registered (.iri j) → i = j) := by
  refine ⟨?_, ?_, ?_, ?_⟩
  · intro iri a name prevails fits
    rcases format_iri_cases registered iri with ⟨b, name', chosen, fitsB, written⟩ | ⟨unfit, -⟩
    · obtain rfl := prevails.unique chosen fits fitsB
      rw [written, fits.name_unique fitsB]
    · exact absurd ⟨name, fits⟩ (unfit a prevails.mem)
  · rintro iri ⟨a, inside, fits⟩
    rcases format_iri_cases registered iri with ⟨b, name, chosen, fitsB, -⟩ | ⟨unfit, -⟩
    · exact ⟨b, name, chosen, fitsB⟩
    · exact absurd fits (unfit a inside)
  · intro iri
    rcases format_iri_cases registered iri with ⟨b, name, chosen, fitsB, written⟩ | ⟨unfit, written⟩
    · rw [written]
      exact iff_of_false (short_ne_bracketed fitsB.2) (not_not_intro ⟨b, chosen.mem, name, fitsB⟩)
    · refine iff_of_true written ?_
      rintro ⟨a, inside, fits⟩
      exact unfit a inside fits
  · intro distinct i j same
    exact eq_of_format_eq distinct same

/-- The last of two labels of the longest base is used, colon and all, a longer base that leaves no
name behind it is passed over, and the forms of different IRIs are different. -/
theorem format_longest_reversible_vocabulary :
    let registered : List Abbreviation :=
      [⟨"e", "http://e/"⟩, ⟨"v", "http://e/v#"⟩, ⟨"w:", "http://e/v#"⟩, ⟨"", "http://e/page"⟩]
    format registered (.iri "http://e/v#page") = "w::page" ∧
    format registered (.iri "http://e/page") = "e:page" ∧
    format registered (.iri "http://e/a/b") = "<http://e/a/b>" ∧
    format registered (.iri "http://e/v#page") ≠ format registered (.iri "http://e/page") := by
  intro registered
  have distinct : ∀ a ∈ registered, ∀ b ∈ registered, a.label = b.label → a.base = b.base := by
    decide
  have chosen : choose? registered "http://e/v#page" = some ⟨"w:", "http://e/v#"⟩ := by
    decide +kernel
  have fits : Fits ⟨"w:", "http://e/v#"⟩ "http://e/v#page" "page" :=
    ⟨by decide, isName_toList_iff.1 (by decide +kernel)⟩
  have unfit := choose?_eq_none_iff.1
    (show choose? registered "http://e/a/b" = none by decide +kernel)
  obtain ⟨short, -, brackets, injective⟩ := format_longest_reversible registered
  refine ⟨short _ _ _ (prevails_of_choose? chosen).1 fits, by decide +kernel, ?_, ?_⟩
  · refine (brackets "http://e/a/b").2 ?_
    rintro ⟨a, inside, fitsA⟩
    exact unfit a inside fitsA
  · intro same
    exact absurd (injective distinct _ _ same) (by decide)

end TripleAlgebra.Abbreviation
