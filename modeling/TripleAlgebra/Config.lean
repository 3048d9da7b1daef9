/-
# TripleAlgebra.Config -- the settings of an evaluation

Two settings: whether a dataset may be asked for two terms at once, and how long an
evaluation may take.  They can be read from named texts, such as the environment of a
process; a missing text leaves the default.  A time budget of zero means no limit, so
a loaded configuration never holds a budget of zero.
-/
import TripleAlgebra.Decimal.Integer
import TripleAlgebra.Text.Blank

namespace TripleAlgebra

set_option autoImplicit false

/-- The time budget in milliseconds if nothing else is said: three minutes. -/
def Config.defaultTimeout : Nat := 180000

/-- The settings of an evaluation.  The time budget is in milliseconds. -/
structure Config where
  fullIndexing : Bool := true
  timeout : Option Nat := some Config.defaultTimeout
deriving DecidableEq

/-- Why a configuration could not be read. -/
inductive ConfigError where
  /-- The text of a setting denotes no value. -/
  | invalidValue (name message : String)
deriving DecidableEq

def ConfigError.message : ConfigError → String
  | invalidValue name message => "invalid value for " ++ name ++ ": " ++ message

namespace Config

/-! ## Changing settings -/

/-- A time budget in milliseconds, of which zero means none. -/
def budget (ms : Nat) : Option Nat :=
  if ms = 0 then none else some ms

def withTimeout (c : Config) (ms : Nat) : Config :=
  { c with timeout := budget ms }

def withoutTimeout (c : Config) : Config :=
  { c with timeout := none }

def withFullIndexing (c : Config) (enabled : Bool) : Config :=
  { c with fullIndexing := enabled }

/-! ## Reading settings -/

def indexingName : String := "ENGINE_FULL_TRIPLE_INDEXING"

def timeoutName : String := "ENGINE_QUERY_TIMEOUT_MS"

/-- A truth value as a setting: a word or a digit, in any case and with white space
around it. -/
def readSwitch? (text : String) : Option Bool :=
  let word := (Text.trim text.toList).map Char.toLower
  if word = "true".toList ∨ word = "1".toList then some true
  else if word = "false".toList ∨ word = "0".toList then some false
  else none

/-- A number of milliseconds as a setting, with white space around it. -/
def readMilliseconds? (text : String) : Option Nat :=
  Decimal.readUnsigned? (Text.trim text.toList)

/-- The text of a setting inside a message. -/
def shown (text : String) : String :=
  "\x27" ++ text ++ "\x27"

/-- Whether two terms may be asked for at once; they may if nothing is said. -/
def loadIndexing : Option String → Except ConfigError Bool
  | none => .ok true
  | some text =>
      match readSwitch? text with
      | some enabled => .ok enabled
      | none => .error (.invalidValue indexingName
          (shown text ++ " is not a boolean (expected true, false, 1 or 0)"))

/-- The time budget; the default if nothing is said. -/
def loadTimeout : Option String → Except ConfigError (Option Nat)
  | none => .ok (some defaultTimeout)
  | some text =>
      match readMilliseconds? text with
      | some ms => .ok (budget ms)
      | none => .error (.invalidValue timeoutName
          (shown text ++ " is not a number of milliseconds"))

/-- The configuration that the named texts describe.  Of two bad texts the one about
indexing is reported. -/
def load (lookup : String → Option String) : Except ConfigError Config := do
  let fullIndexing ← loadIndexing (lookup indexingName)
  let timeout ← loadTimeout (lookup timeoutName)
  return { fullIndexing, timeout }

end Config

end TripleAlgebra
