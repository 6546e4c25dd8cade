/-!
# Crashes

Some requests cannot be refused in an orderly way: a limit of the machine is
exceeded and the work ends at once, without a result. Each such limit is named here.
-/

namespace Resharing

/-- Why work ended at once. -/
inductive Crash where
  /-- Room for the failures of all attempts cannot be reserved. -/
  | noRoomForFailures
  /-- There cannot be as many permits as asked for. -/
  | tooManyPermits
  /-- A point in time or a span of time cannot be represented. -/
  | timeOutOfRange
  deriving DecidableEq, Repr

end Resharing
