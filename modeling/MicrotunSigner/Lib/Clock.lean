import Mathlib.Algebra.Group.Nat.Defs
import Mathlib.Algebra.Order.Group.Int

/-!
# Clocks

The two clocks of a process, in whole nanoseconds. An instant is a reading of the monotonic clock,
an `Int` with signed 64-bit seconds: `Instant.checkedAdd` and `Instant.checkedSub` give `none`
outside that range. A duration is a `Nat` with unsigned 64-bit seconds. A wall-clock reading is an
`Int`, the nanoseconds since the Unix epoch; `unixSeconds` is its whole seconds, and `0` before the
epoch.

Instants and durations stay plain `Int` and `Nat`, so that `omega` sees the arithmetic.
-/

namespace Lib

/-- Nanoseconds in a second. -/
def nanos : Nat := 1000000000

namespace Duration

def fromSecs (secs : Nat) : Nat := secs * nanos

/-- The longest duration: `2^64 - 1` seconds and all nanoseconds but one of the next. -/
def max : Nat := 2 ^ 64 * nanos - 1

def saturatingAdd (a b : Nat) : Nat := min (a + b) max

theorem saturatingAdd_le (a b : Nat) : saturatingAdd a b ≤ a + b := Nat.min_le_left _ _

end Duration

namespace Instant

/-- `t` is a reading the clock can represent. -/
def InRange (t : Int) : Prop := -(2 ^ 63) * (nanos : Int) ≤ t ∧ t < 2 ^ 63 * (nanos : Int)

instance (t : Int) : Decidable (InRange t) := inferInstanceAs (Decidable (_ ∧ _))

def checkedAdd (t : Int) (d : Nat) : Option Int :=
  if InRange (t + (d : Int)) then some (t + (d : Int)) else none

def checkedSub (t : Int) (d : Nat) : Option Int :=
  if InRange (t - (d : Int)) then some (t - (d : Int)) else none

/-- The time from `at_` to `now`, `0` if `now` is earlier. -/
def elapsed (at_ now : Int) : Nat := (now - at_).toNat

theorem checkedAdd_eq_some {t r : Int} {d : Nat} (h : checkedAdd t d = some r) :
    r = t + (d : Int) := by
  unfold checkedAdd at h
  split at h
  · cases h; rfl
  · cases h

theorem elapsed_lt {at_ now : Int} {d : Nat} (hd : 0 < d) :
    elapsed at_ now < d ↔ now < at_ + (d : Int) := by
  unfold elapsed
  omega

theorem le_elapsed {at_ now : Int} {d : Nat} (hd : 0 < d) :
    d ≤ elapsed at_ now ↔ at_ + (d : Int) ≤ now := by
  unfold elapsed
  omega

end Instant

/-- Whole seconds of a wall-clock reading since the epoch. -/
def unixSeconds (wall : Int) : Nat := (wall / (nanos : Int)).toNat

/-! ## Unsigned 64-bit arithmetic that saturates -/

/-- The largest unsigned 64-bit value. -/
def u64Max : Nat := 2 ^ 64 - 1

def saturatingAdd (a b : Nat) : Nat := min (a + b) u64Max

end Lib
