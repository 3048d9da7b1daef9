/-
# TripleAlgebra.Proofs.Config -- which texts are settings

A truth value is spelled as a word or a digit, in any case; a time budget is a decimal numeral
without a minus, of a number of 64 bits; both may stand between blanks.  `IsSwitch` and
`IsMilliseconds` say so without trimming or reading anything.  A configuration is loaded from two
texts exactly when each of them is missing or such a spelling, and then it holds what they denote
(`load_eq_ok_iff`).

A budget of zero means that there is none.  No way to load or to change a configuration leaves a
zero in it (`Reachable.timeout_ne_zero`).
-/
import TripleAlgebra.Clock
import TripleAlgebra.Config
import TripleAlgebra.Proofs.Decimal.Numeral
import TripleAlgebra.Proofs.Failure
import TripleAlgebra.Proofs.Text.Blank

namespace TripleAlgebra.Config

set_option autoImplicit false

/-! ## Spellings -/

/-- The words for a truth value. -/
def switchWords : Bool → List String
  | true => ["true", "1"]
  | false => ["false", "0"]

/-- The text is a word for the truth value, in letters of any case and between blanks. -/
def IsSwitch (text : String) (enabled : Bool) : Prop :=
  ∃ core, Text.Trimmed text.toList core ∧
    ∃ word ∈ switchWords enabled, core.map Char.toLower = word.toList

/-- The text is a numeral of the number between blanks, with a plus or without a sign, and the
number has no more than 64 bits. -/
def IsMilliseconds (text : String) (ms : Nat) : Prop :=
  ∃ core, Text.Trimmed text.toList core ∧ Decimal.UnsignedNumeral core ms ∧
    ms ≤ Decimal.unsignedMax

variable {text : String} {enabled : Bool} {ms : Nat}

theorem readSwitch?_eq_some_iff : readSwitch? text = some enabled ↔ IsSwitch text enabled := by
  simp only [IsSwitch, ← Text.trim_eq_iff, exists_eq_left', readSwitch?]
  generalize (Text.trim text.toList).map Char.toLower = word
  split
  · rename_i affirmed
    rcases affirmed with rfl | rfl <;> cases enabled <;> simp [switchWords]
  · split
    · rename_i denied
      rcases denied with rfl | rfl <;> cases enabled <;> simp [switchWords]
    · cases enabled <;> simp_all [switchWords]

theorem readMilliseconds?_eq_some_iff :
    readMilliseconds? text = some ms ↔ IsMilliseconds text ms := by
  simp only [IsMilliseconds, ← Text.trim_eq_iff, exists_eq_left']
  exact Decimal.readUnsigned?_eq_some_iff

/-! ## Loading -/

/-- What the text of the setting says about indexing; a missing one says yes. -/
def DenotesIndexing : Option String → Bool → Prop
  | none, enabled => enabled = true
  | some text, enabled => IsSwitch text enabled

/-- What the text of the setting says about the time budget: a missing one says three minutes, and
one for the number zero says that there is no budget. -/
def DenotesTimeout : Option String → Option Nat → Prop
  | none, timeout => timeout = some 180000
  | some text, timeout => ∃ ms, IsMilliseconds text ms ∧
      (ms = 0 ∧ timeout = none ∨ ms ≠ 0 ∧ timeout = some ms)

variable {lookup : String → Option String} {c : Config} {timeout : Option Nat}

theorem budget_eq_iff : budget ms = timeout ↔
    ms = 0 ∧ timeout = none ∨ ms ≠ 0 ∧ timeout = some ms := by
  unfold budget
  split <;> simp_all [eq_comm]

theorem loadIndexing_eq_ok_iff {setting : Option String} :
    loadIndexing setting = .ok enabled ↔ DenotesIndexing setting enabled := by
  cases setting with
  | none => simp [loadIndexing, DenotesIndexing, eq_comm]
  | some text =>
      rw [loadIndexing, DenotesIndexing, ← readSwitch?_eq_some_iff]
      cases readSwitch? text <;> simp

theorem loadTimeout_eq_ok_iff {setting : Option String} :
    loadTimeout setting = .ok timeout ↔ DenotesTimeout setting timeout := by
  cases setting with
  | none => simp [loadTimeout, DenotesTimeout, defaultTimeout, eq_comm]
  | some text =>
      simp only [loadTimeout, DenotesTimeout, ← readMilliseconds?_eq_some_iff, ← budget_eq_iff]
      cases readMilliseconds? text <;> simp

/-- **A configuration is loaded exactly from spellings of what it holds.** -/
theorem load_eq_ok_iff : load lookup = .ok c ↔
    DenotesIndexing (lookup indexingName) c.fullIndexing ∧
      DenotesTimeout (lookup timeoutName) c.timeout := by
  rw [load, bind_eq_ok_iff]
  simp only [bind_eq_ok_iff, loadIndexing_eq_ok_iff, loadTimeout_eq_ok_iff]
  constructor
  · rintro ⟨enabled, onIndexing, timeout, onTimeout, made⟩
    obtain rfl := Except.ok.inj made
    exact ⟨onIndexing, onTimeout⟩
  · rintro ⟨onIndexing, onTimeout⟩
    exact ⟨c.fullIndexing, onIndexing, c.timeout, onTimeout, rfl⟩

/-- What a setting denotes is a time that a clock can show. -/
theorem DenotesTimeout.le_lastTime {setting : Option String}
    (denotes : DenotesTimeout setting (some ms)) : ms ≤ Clock.lastTime := by
  cases setting with
  | none =>
      obtain rfl := Option.some.inj denotes
      decide
  | some text =>
      obtain ⟨number, ⟨core, -, -, fits⟩, ⟨-, none⟩ | ⟨-, same⟩⟩ := denotes
      · cases none
      · obtain rfl := Option.some.inj same
        exact Clock.le_lastTime_iff.2 (Decimal.le_unsignedMax_iff.1 fits)

/-- **A time budget that was loaded is a time**, so a deadline can be told by a clock. -/
theorem le_lastTime_of_load (loaded : load lookup = .ok c) (budgeted : c.timeout = some ms) :
    ms ≤ Clock.lastTime := by
  have denotes := (load_eq_ok_iff.1 loaded).2
  rw [budgeted] at denotes
  exact denotes.le_lastTime

/-! ### Refused texts -/

theorem exists_denotesIndexing_iff {setting : Option String} :
    (∃ enabled, DenotesIndexing setting enabled) ↔
      ∀ text, setting = some text → ∃ enabled, IsSwitch text enabled := by
  cases setting with
  | none => simp [DenotesIndexing]
  | some text => simp only [DenotesIndexing, Option.some.injEq, forall_eq']

theorem exists_denotesTimeout_iff {setting : Option String} :
    (∃ timeout, DenotesTimeout setting timeout) ↔
      ∀ text, setting = some text → ∃ ms, IsMilliseconds text ms := by
  cases setting with
  | none => simp [DenotesTimeout]
  | some text =>
      simp only [DenotesTimeout, ← budget_eq_iff, Option.some.injEq, forall_eq']
      constructor
      · rintro ⟨_, ms, spelled, -⟩
        exact ⟨ms, spelled⟩
      · rintro ⟨ms, spelled⟩
        exact ⟨budget ms, ms, spelled, rfl⟩

theorem loadIndexing_of_not_isSwitch (unreadable : ¬ ∃ enabled, IsSwitch text enabled) :
    loadIndexing (some text) = .error (.invalidValue indexingName
      (shown text ++ " is not a boolean (expected true, false, 1 or 0)")) := by
  have nothing : readSwitch? text = none := by
    rw [Option.eq_none_iff_forall_ne_some]
    intro enabled read
    exact unreadable ⟨enabled, readSwitch?_eq_some_iff.1 read⟩
  rw [loadIndexing, nothing]

theorem loadTimeout_of_not_isMilliseconds (unreadable : ¬ ∃ ms, IsMilliseconds text ms) :
    loadTimeout (some text) = .error (.invalidValue timeoutName
      (shown text ++ " is not a number of milliseconds")) := by
  have nothing : readMilliseconds? text = none := by
    rw [Option.eq_none_iff_forall_ne_some]
    intro ms read
    exact unreadable ⟨ms, readMilliseconds?_eq_some_iff.1 read⟩
  rw [loadTimeout, nothing]

/-! ## Changing -/

/-- The configuration was loaded and perhaps changed since. -/
inductive Reachable (lookup : String → Option String) : Config → Prop where
  | load {c : Config} (loaded : load lookup = .ok c) : Reachable lookup c
  | withTimeout {c : Config} (former : Reachable lookup c) (ms : Nat) :
      Reachable lookup (c.withTimeout ms)
  | withoutTimeout {c : Config} (former : Reachable lookup c) : Reachable lookup c.withoutTimeout
  | withFullIndexing {c : Config} (former : Reachable lookup c) (enabled : Bool) :
      Reachable lookup (c.withFullIndexing enabled)

theorem budget_ne_zero (ms : Nat) : budget ms ≠ some 0 := by
  intro zero
  rcases budget_eq_iff.1 zero with ⟨-, none⟩ | ⟨nonzero, same⟩
  · cases none
  · exact nonzero (Option.some.inj same).symm

/-- What a setting denotes is no budget of zero. -/
theorem DenotesTimeout.ne_zero {setting : Option String}
    (denotes : DenotesTimeout setting timeout) : timeout ≠ some 0 := by
  cases setting with
  | none =>
      obtain rfl := denotes
      decide
  | some text =>
      obtain ⟨ms, -, value⟩ := denotes
      obtain rfl := budget_eq_iff.2 value
      exact budget_ne_zero ms

/-- **No configuration has a time budget of zero.** -/
theorem Reachable.timeout_ne_zero (reachable : Reachable lookup c) : c.timeout ≠ some 0 := by
  induction reachable with
  | load loaded => exact (load_eq_ok_iff.1 loaded).2.ne_zero
  | withTimeout former ms ih => exact budget_ne_zero ms
  | withoutTimeout former ih => exact nofun
  | withFullIndexing former enabled ih => exact ih

/-- **Loading accepts the spellings of settings and nothing else.**  Whatever the names are looked
up to,

* a configuration is loaded exactly if each text denotes what it holds;
* there is one exactly if the text about indexing is missing or spells a truth value, and the text
  about the time budget is missing or spells a number;
* a bad text about indexing is reported, whatever the other one is, and a bad text about the
  budget where the one about indexing is good;
* the configuration that was loaded has no time budget of zero, nor has any that is made of it by
  changing settings. -/
theorem loading_exact (lookup : String → Option String) :
    (∀ c, load lookup = .ok c ↔
      DenotesIndexing (lookup indexingName) c.fullIndexing ∧
        DenotesTimeout (lookup timeoutName) c.timeout) ∧
    ((∃ c, load lookup = .ok c) ↔
      (∀ text, lookup indexingName = some text → ∃ enabled, IsSwitch text enabled) ∧
        ∀ text, lookup timeoutName = some text → ∃ ms, IsMilliseconds text ms) ∧
    (∀ text, lookup indexingName = some text → (¬ ∃ enabled, IsSwitch text enabled) →
      load lookup = .error (.invalidValue indexingName
        (shown text ++ " is not a boolean (expected true, false, 1 or 0)"))) ∧
    ((∀ text, lookup indexingName = some text → ∃ enabled, IsSwitch text enabled) →
      ∀ text, lookup timeoutName = some text → (¬ ∃ ms, IsMilliseconds text ms) →
        load lookup = .error (.invalidValue timeoutName
          (shown text ++ " is not a number of milliseconds"))) ∧
    ∀ c, Reachable lookup c → c.timeout ≠ some 0 := by
  refine ⟨fun _ => load_eq_ok_iff, ?_, ?_, ?_, fun _ => Reachable.timeout_ne_zero⟩
  · simp only [load_eq_ok_iff, ← exists_denotesIndexing_iff, ← exists_denotesTimeout_iff]
    constructor
    · rintro ⟨c, onIndexing, onTimeout⟩
      exact ⟨⟨_, onIndexing⟩, ⟨_, onTimeout⟩⟩
    · rintro ⟨⟨enabled, onIndexing⟩, ⟨timeout, onTimeout⟩⟩
      exact ⟨⟨enabled, timeout⟩, onIndexing, onTimeout⟩
  · intro text given unreadable
    rw [load, given, loadIndexing_of_not_isSwitch unreadable]
    rfl
  · intro readable text given unreadable
    obtain ⟨enabled, onIndexing⟩ := exists_denotesIndexing_iff.2 readable
    rw [load, loadIndexing_eq_ok_iff.2 onIndexing, given,
      loadTimeout_of_not_isMilliseconds unreadable]
    rfl

/-- A switch in capital letters and a zero behind a plus and further zeros, with white space around
them, are a configuration without indexing and budget, to which a budget of zero gives none either.
Of two bad texts, one a word and the other a number one too great, the first is reported, and the
second where nothing is said about indexing. -/
theorem loading_exact_spellings :
    let lookup name := if name = indexingName then some "\u00a0FALSE\t"
      else if name = timeoutName then some "\u3000+000\n" else none
    let excess := "18446744073709551616"
    let wrong name := if name = indexingName then some "maybe"
      else if name = timeoutName then some excess else none
    let late name := if name = timeoutName then some excess else none
    (∃ c, load lookup = .ok c ∧ c.fullIndexing = false ∧ c.timeout = none ∧
      Reachable lookup (c.withTimeout 0) ∧ (c.withTimeout 0).timeout ≠ some 0) ∧
    (¬ ∃ enabled, IsSwitch "maybe" enabled) ∧ (¬ ∃ ms, IsMilliseconds excess ms) ∧
    load wrong = .error (.invalidValue indexingName
      "\x27maybe\x27 is not a boolean (expected true, false, 1 or 0)") ∧
    load late = .error (.invalidValue timeoutName
      "\x2718446744073709551616\x27 is not a number of milliseconds") := by
  intro lookup excess wrong late
  have loaded : load lookup = .ok ⟨false, none⟩ := by decide
  have noSwitch : ¬ ∃ enabled, IsSwitch "maybe" enabled := by
    rintro ⟨enabled, spelled⟩
    have read : readSwitch? "maybe" = none := by decide
    rw [readSwitch?_eq_some_iff.2 spelled] at read
    cases read
  have noNumber : ¬ ∃ ms, IsMilliseconds excess ms := by
    rintro ⟨ms, spelled⟩
    have read : readMilliseconds? excess = none := by decide
    rw [readMilliseconds?_eq_some_iff.2 spelled] at read
    cases read
  obtain ⟨-, -, -, -, nonzero⟩ := loading_exact lookup
  obtain ⟨-, -, first, -⟩ := loading_exact wrong
  obtain ⟨-, -, -, second, -⟩ := loading_exact late
  have changed : Reachable lookup (Config.withTimeout ⟨false, none⟩ 0) :=
    (Reachable.load loaded).withTimeout 0
  exact ⟨⟨_, loaded, rfl, rfl, changed, nonzero _ changed⟩, noSwitch, noNumber,
    first "maybe" rfl noSwitch, second nofun excess rfl noNumber⟩

end TripleAlgebra.Config
