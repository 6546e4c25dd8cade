import Resharing.Crash
import Resharing.Time.Duration

/-!
# Points in time

A point in time is a number of nanoseconds since the beginning of 1970. The calendar
reaches from the year -262143 to the year 262142, and spans are limited to as many
milliseconds as 64 bits with a sign can hold.
-/

namespace Resharing

/-- Nanoseconds since the beginning of 1970. -/
abbrev Instant := Int

namespace Instant

/-- The first second of the calendar. -/
def firstSecond : Int := -8334601228800

/-- The last second of the calendar. -/
def lastSecond : Int := 8210266876799

/-- The most seconds that a span can have. -/
def longestSpan : Int := 9223372036854775

/-- The point in time so many seconds later. -/
def addSeconds (now : Instant) (seconds : Int) : Except Crash Instant :=
  if seconds < -longestSpan ∨ longestSpan < seconds then .error .timeOutOfRange
  else
    let later := now + seconds * nanosPerSecond
    if firstSecond * nanosPerSecond ≤ later ∧ later < (lastSecond + 1) * nanosPerSecond then
      .ok later
    else .error .timeOutOfRange

end Instant

end Resharing
