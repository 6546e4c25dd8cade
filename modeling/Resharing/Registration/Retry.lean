import Resharing.Time.Duration

/-!
# How often and how patiently to retry

After a failure the base delay is waited for, after each further one twice as long
as before, up to sixteen doublings.

## Main definitions

* `Retry`: the number of attempts and the base delay
* `Retry.delayAfter`: the delay after a number of failures
-/

namespace Resharing

/-- How often something is attempted and how long to wait in between. -/
structure Retry where
  /-- The number of attempts asked for. Zero means one. -/
  attempts : UInt64
  baseDelay : Duration
  deriving DecidableEq

namespace Retry

/-- At least one attempt, without waiting. -/
def immediate (attempts : UInt64) : Retry := ⟨max attempts 1, .zero⟩

/-- At least one attempt, with growing delays. -/
def backoff (attempts : UInt64) (baseDelay : Duration) : Retry := ⟨max attempts 1, baseDelay⟩

/-- Three attempts, the first delay being a fifth of a second. -/
def standard : Retry := backoff 3 (.ofMillis 200)

/-- How many attempts are made when all fail. -/
def bound (retry : Retry) : Nat := max retry.attempts.toNat 1

/-- How often the base delay is doubled after a number of failures. -/
def doublings (failures : Nat) : Nat := min (failures - 1) 16

/-- The delay after a number of failures. -/
def delayAfter (retry : Retry) (failures : Nat) : Duration :=
  retry.baseDelay.scale (Nat.pow 2 (doublings failures))

end Retry

end Resharing
