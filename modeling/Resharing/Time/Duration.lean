/-!
# Spans of time

A span is a number of seconds below 2^64 and a number of nanoseconds below 10^9.
Multiplying goes up to the longest span and stays there.

## Main definitions

* `Duration`, `Duration.total`: a span and its nanoseconds
* `Duration.scale`: a multiple, capped at `Duration.longest`
-/

namespace Resharing

def nanosPerSecond : Nat := 1000000000

/-- A span of time. -/
structure Duration where
  seconds : Nat
  nanoseconds : Nat
  seconds_lt : seconds < UInt64.size
  /-- There is less than a second beyond. -/
  nanoseconds_lt : nanoseconds < nanosPerSecond
  deriving DecidableEq

namespace Duration

def total (span : Duration) : Nat := span.seconds * nanosPerSecond + span.nanoseconds

def zero : Duration := ⟨0, 0, by decide, by decide⟩

def longest : Duration := ⟨UInt64.size - 1, 999999999, by decide, by decide⟩

def ofMillis (millis : UInt64) : Duration where
  seconds := millis.toNat / 1000
  nanoseconds := millis.toNat % 1000 * 1000000
  seconds_lt := Nat.lt_of_le_of_lt (Nat.div_le_self _ _) millis.toNat_lt
  nanoseconds_lt := by
    have small : millis.toNat % 1000 < 1000 := Nat.mod_lt _ (by decide)
    simp only [nanosPerSecond]
    omega

/-- The span in whole milliseconds. -/
def millis (span : Duration) : Nat := span.seconds * 1000 + span.nanoseconds / 1000000

/-- The given number of spans put together. Seconds and nanoseconds are multiplied on
their own and whole seconds are carried over; past the longest span it stays there. -/
def scale (span : Duration) (factor : Nat) : Duration :=
  let nanos := span.nanoseconds * factor
  let seconds := span.seconds * factor
  let carried := seconds + nanos / nanosPerSecond
  if fits : carried < UInt64.size then
    ⟨carried, nanos % nanosPerSecond, fits, Nat.mod_lt _ (by decide)⟩
  else longest

end Duration

end Resharing
