import Resharing.Crash
import Resharing.Messenger.Basic
import Resharing.Registration.Retry

/-!
# Registering an operator's node

The node is offered to the messenger until it is accepted or the attempts are used
up. Room for the failures of all attempts is reserved before the first one.

## Main definitions

* `Registration`: how it ended, what it took and what state it left
* `Registration.attempts`: the attempts and the delays between them
* `Registration.run`: the registration of an operator
-/

namespace Resharing

/-- A finished registration. -/
structure Registration (σ : Type) where
  result : Except Error Unit
  /-- How often the messenger was called. -/
  calls : Nat
  delays : List Duration
  state : σ

namespace Registration

variable {σ : Type}

/-- The milliseconds that were waited for altogether. -/
def elapsed (registration : Registration σ) : Nat :=
  registration.delays.foldl (fun total delay => total + delay.millis) 0

/-- How a failed attempt is reported. -/
def failureText (attempt : Nat) (error : Error) : String :=
  "attempt " ++ Decimal.text attempt ++ ": " ++ error.message

/-- Makes up to `remaining + 1` more attempts, the first of which is the given one.
Failures so far are gathered last first. There is no delay after the last attempt. -/
def attempts (retry : Retry) (call : Effect σ Unit) :
    (remaining attempt : Nat) → List String → σ → Registration σ
  | remaining, attempt, failures, state =>
    match call.perform state with
    | (.ok (), state) => ⟨.ok (), attempt, [], state⟩
    | (.error error, state) =>
      let failures := failureText attempt error :: failures
      match remaining with
      | 0 => ⟨.error (.notRegistered attempt failures.reverse), attempt, [], state⟩
      | remaining + 1 =>
        let later := attempts retry call remaining (attempt + 1) failures state
        { later with delays := retry.delayAfter attempt :: later.delays }

/-- The bytes that the text of one failure takes in a list. -/
def failureSize : Nat := 24

/-- Whether room for the failures of a number of attempts can be reserved. -/
def hasRoom (bound : Nat) : Bool := bound * failureSize < UInt64.size / 2

def node (id : OperatorId) (address : String) : Subscriber := ⟨id.text, address⟩

/-- Registers the node of an operator on a topic. -/
def run (messenger : Messenger σ) (id : OperatorId) (address topic : String) (retry : Retry)
    (state : σ) : Except Crash (Registration σ) :=
  if hasRoom retry.bound then
    let call := messenger.registerNode (node id address) topic
    .ok (attempts retry call (retry.bound - 1) 1 [] state)
  else .error .noRoomForFailures

end Registration

end Resharing
