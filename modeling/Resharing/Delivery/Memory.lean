import Resharing.Delivery.Transport

/-!
# A transport in memory

Every call takes the same time. Then it is accepted, unless its address refuses.

## Main definitions

* `MemoryTransport`: how long calls take, and who refuses
* `MemoryTransport.transport`: its calls
-/

namespace Resharing

/-- How a transport in memory is set up. -/
structure MemoryTransport where
  /-- The milliseconds that every call takes. -/
  delay : Nat
  /-- The addresses that refuse, and why. -/
  refusals : List (String × DeliveryFault)

namespace MemoryTransport

/-- Why an address refuses, if it does. -/
def refusal? (memory : MemoryTransport) (address : String) : Option DeliveryFault :=
  memory.refusals.lookup address

/-- What comes of a call to an address. A refusal takes as long as an acceptance. -/
def behaviour (memory : MemoryTransport) (address : String) : Behaviour where
  delay := some memory.delay
  ending := .answer
    (match memory.refusal? address with
    | some fault => .error fault
    | none => .ok ())

/-- The calls of a transport in memory. -/
def transport {τ : Type} (memory : MemoryTransport) : Transport τ := .ofBehaviour memory.behaviour

end MemoryTransport

end Resharing
