import Resharing.Operator.Map

/-!
# Permits

A fixed number of permits limits how many deliveries are under way. Who asks in vain
joins a queue; a permit that comes back is granted to the first in the queue, who
may pick it up later.

## Main definitions

* `Permits`: free permits, the queue, and grants not yet picked up
* `Permits.ask`, `Permits.claim`, `Permits.release`, `Permits.withdraw`
-/

namespace Resharing

/-- The permits that are not in use. -/
structure Permits where
  free : Nat
  queue : List OperatorId
  /-- Who has been granted a permit and has not picked it up. -/
  granted : List OperatorId
  deriving DecidableEq, Repr

namespace Permits

def start (count : Nat) : Permits := ⟨count, [], []⟩

/-- Takes a free permit, or joins the queue. -/
def ask (permits : Permits) (id : OperatorId) : Bool × Permits :=
  match permits.free with
  | 0 => (false, { permits with queue := permits.queue ++ [id] })
  | free + 1 => (true, { permits with free := free })

/-- Picks up a granted permit, if there is one. -/
def claim (permits : Permits) (id : OperatorId) : Option Permits :=
  if id ∈ permits.granted then some { permits with granted := permits.granted.erase id }
  else none

/-- A permit comes back: it is granted to the first in the queue, or is free. -/
def release (permits : Permits) : Permits :=
  match permits.queue with
  | [] => { permits with free := permits.free + 1 }
  -- Nobody can overtake the first in the queue: the permit is not free in between.
  | first :: rest => { permits with queue := rest, granted := permits.granted ++ [first] }

/-- Someone waits no longer: it leaves the queue, or gives its grant back. -/
def withdraw (permits : Permits) (id : OperatorId) : Permits :=
  match permits.claim id with
  | some permits => permits.release
  | none => { permits with queue := permits.queue.erase id }

end Permits

end Resharing
