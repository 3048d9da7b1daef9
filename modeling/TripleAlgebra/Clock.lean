/-
# TripleAlgebra.Clock -- time that moves only when it is read

Times are milliseconds since an epoch, at most 64 bits wide.  A clock shows a time,
moves on by a fixed step after every reading and counts its readings.  It stops at
the greatest time instead of starting over.

A deadline remembers when a task began and how long it may take; it has expired
once more than that has elapsed.
-/
namespace TripleAlgebra

set_option autoImplicit false

/-! ## Clocks -/

/-- The greatest time. -/
def Clock.lastTime : Nat := 0xffffffffffffffff

theorem Clock.le_lastTime_iff {time : Nat} : time ≤ Clock.lastTime ↔ time < Nat.pow 2 64 := by
  have bound : Nat.pow 2 64 = Clock.lastTime + 1 := by decide
  rw [bound, Nat.lt_succ_iff]

/-- A clock that moves on by a step after every reading. -/
structure Clock where
  current : Nat := 1700000000000
  step : Nat := 0
  reads : Nat := 0
deriving DecidableEq

namespace Clock

/-- Move on by some milliseconds, but not past the greatest time. -/
def advance (c : Clock) (ms : Nat) : Clock :=
  { c with current := min (c.current + ms) lastTime }

/-- Show another time. -/
def set (c : Clock) (time : Nat) : Clock :=
  { c with current := time }

/-- The time that the clock shows, and the clock after the reading. -/
def read (c : Clock) : Nat × Clock :=
  (c.current, { c with reads := c.reads + 1 }.advance c.step)

/-! ### Working a clock -/

/-- One thing to do with a clock. -/
inductive Step where
  | read
  | current
  | advance (ms : Nat)
  | set (time : Nat)
  | reads
deriving DecidableEq

/-- What a clock answers. -/
inductive Reply where
  | time (ms : Nat)
  | count (n : Nat)
deriving DecidableEq

/-- Do one thing with a clock.  Moving or setting it is answered by the time that it
then shows. -/
def work (c : Clock) : Step → Reply × Clock
  | .read =>
      let (now, later) := c.read
      (.time now, later)
  | .current => (.time c.current, c)
  | .advance ms =>
      let later := c.advance ms
      (.time later.current, later)
  | .set time => (.time time, c.set time)
  | .reads => (.count c.reads, c)

end Clock

/-! ## Deadlines -/

/-- A start and the time that may elapse from there; without a limit it never
expires. -/
structure Deadline where
  start : Nat
  limit : Option Nat
deriving DecidableEq

namespace Deadline

/-- The time since the start; none has passed before it. -/
def elapsed (d : Deadline) (now : Nat) : Nat :=
  now - d.start

/-- More time has elapsed than the limit allows. -/
def isExpired (d : Deadline) (now : Nat) : Bool :=
  match d.limit with
  | some limit => limit < d.elapsed now
  | none => false

end Deadline

end TripleAlgebra
