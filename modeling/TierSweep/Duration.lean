import TierSweep.Number.Binary64

/-!
# Durations

A duration is a whole number of nanoseconds below `2 ^ 64` seconds.
-/

namespace TierSweep

/-- The number of nanoseconds in a second. -/
abbrev nanosPerSecond : Nat := tenTo 9

/-- A span of time, in nanoseconds. -/
structure Duration where
  nanos : Nat
  nanos_lt : nanos < twoTo 64 * nanosPerSecond

namespace Duration

instance : DecidableEq Duration := fun a b =>
  decidable_of_iff (a.nanos = b.nanos) (by cases a; cases b; simp)

/-- The longest duration. -/
def max : Duration := ⟨twoTo 64 * nanosPerSecond - 1, by decide⟩

/-- The duration of so many nanoseconds, or the longest one if there are too many. -/
def ofNanos (n : Nat) : Duration :=
  if h : n < twoTo 64 * nanosPerSecond then ⟨n, h⟩ else max

/-- No time at all. -/
def zero : Duration := ofNanos 0

/-- Whole seconds. -/
def ofSeconds (n : Nat) : Duration := ofNanos (n * nanosPerSecond)

/-- Whole milliseconds. -/
def ofMillis (n : Nat) : Duration := ofNanos (n * tenTo 6)

/-- The whole seconds of a duration. -/
def seconds (d : Duration) : Nat := d.nanos / nanosPerSecond

/-- The nanoseconds beyond the whole seconds. -/
def subsecNanos (d : Duration) : Nat := d.nanos % nanosPerSecond

/-- The whole milliseconds of a duration. -/
def millis (d : Duration) : Nat := d.nanos / tenTo 6

/-- The whole milliseconds in a word of sixty-four bits. Those that do not fit start again from
zero. -/
def millis64 (d : Duration) : UInt64 := UInt64.ofNat d.millis

/-- The time from one reading of a clock to a later one. There is none if the clock went back. -/
def since (reading earlier : Duration) : Duration := ofNanos (reading.nanos - earlier.nanos)

/-- The sum of two durations, or the longest one if the sum is too long. -/
def saturatingAdd (a b : Duration) : Duration := ofNanos (a.nanos + b.nanos)

/-- The quotient rounded to the nearest natural number, ties to even. -/
def roundDiv (num den : Nat) : Nat :=
  let quotient := num / den
  let remainder := num % den
  if den < 2 * remainder ∨ (2 * remainder = den ∧ quotient % 2 = 1) then quotient + 1 else quotient

/-- The duration of a number of seconds, rounded to the nearest nanosecond with ties to even. A
negative, infinite or too large number, or one that is not a number, has none. -/
def ofBinary64? : Binary64 → Option Duration
  | .finite negative rank =>
    if negative ∧ rank.val ≠ 0 then none
    else
      let n := roundDiv (Binary64.units rank * nanosPerSecond) (twoTo 1074)
      if h : n < twoTo 64 * nanosPerSecond then some ⟨n, h⟩ else none
  | _ => none

end Duration

end TierSweep
