/-!
# Cancellation

One owner can cancel what many observe. The owner's switch counts its changes, and an
observer remembers the count it saw last, so that a change is noticed even if the
owner is gone by the time the observer looks. An owner that leaves without
cancelling cancels nothing.

## Main definitions

* `Switch`: what the owner changes
* `Wait`, `Switch.look`, `Switch.wake`: an observer waiting for the cancellation
* `Cancellation`: a switch with its observers
-/

namespace Resharing

/-- What an owner changes and observers look at. -/
structure Switch where
  cancelled : Bool
  /-- How often the owner has changed it. -/
  changes : Nat
  owned : Bool
  deriving DecidableEq, Repr

namespace Switch

/-- A switch with an owner who has not cancelled. -/
def fresh : Switch := ⟨false, 0, true⟩

/-- A switch whose owner has left without cancelling. -/
def abandoned : Switch := ⟨false, 0, false⟩

def cancel (switch : Switch) : Switch :=
  { switch with cancelled := true, changes := switch.changes + 1 }

def leave (switch : Switch) : Switch := { switch with owned := false }

end Switch

/-- What has become of an observer's wait. -/
inductive Wait where
  | resolved
  /-- The observer sleeps; it has seen so many changes. -/
  | asleep (seen : Nat)
  /-- The owner is gone and will never cancel. -/
  | stranded
  deriving DecidableEq, Repr

namespace Switch

/-- An observer looks: it sees the cancellation, or sleeps until something changes, or
learns that nothing ever will. -/
def look (switch : Switch) : Wait :=
  if switch.cancelled then .resolved
  else if switch.owned then .asleep switch.changes
  else .stranded

/-- A sleeping observer is woken. A change since the last look comes before the
owner's leave. -/
def wake (switch : Switch) : Wait → Wait
  | .asleep seen =>
    -- The owner may have cancelled and left since the last look.
    if switch.changes ≠ seen then switch.look
    else if switch.owned then .asleep seen
    else .stranded
  | wait => wait

end Switch

/-- A switch with its observers: for each, whether it observes this switch or one that
is never cancelled. -/
structure Cancellation where
  switch : Switch
  tokens : List Bool
  deriving DecidableEq, Repr

namespace Cancellation

def start : Cancellation := ⟨.fresh, [true]⟩

/-- The switch that an observer looks at. -/
def watched (state : Cancellation) (token : Nat) : Switch :=
  if state.tokens.getD token false then state.switch else .abandoned

/-- The owner cancels, if there still is one. -/
def cancel (state : Cancellation) : Option Cancellation :=
  if state.switch.owned then some { state with switch := state.switch.cancel } else none

/-- The owner leaves, if there still is one. -/
def leave (state : Cancellation) : Option Cancellation :=
  if state.switch.owned then some { state with switch := state.switch.leave } else none

/-- The owner makes another observer, if there still is one. -/
def token (state : Cancellation) : Option Cancellation :=
  if state.switch.owned then some { state with tokens := state.tokens ++ [true] } else none

/-- Another observer of what an observer observes. -/
def clone (state : Cancellation) (token : Nat) : Cancellation :=
  { state with tokens := state.tokens ++ [state.tokens.getD token false] }

/-- An observer of a switch that is never cancelled. -/
def never (state : Cancellation) : Cancellation :=
  { state with tokens := state.tokens ++ [false] }

/-- Whether an observer sees the cancellation. -/
def isCancelled (state : Cancellation) (token : Nat) : Bool := (state.watched token).cancelled

/-- Whether a wait for the cancellation ends in time when nothing happens meanwhile. -/
def wait (state : Cancellation) (token : Nat) : Bool :=
  (state.watched token).look = .resolved

/-- Whether a wait of `limit` milliseconds ends in time when the owner cancels after
`delay` of them, and the state afterwards. A wait that may take no time is over before the
owner has its turn. -/
def waitCancelled (state : Cancellation) (token limit delay : Nat) :
    Option (Bool × Cancellation) :=
  let first := (state.watched token).look
  state.cancel.map fun later =>
    let woken := if 0 < limit ∧ delay ≤ limit then (later.watched token).wake first else first
    (woken = .resolved, later)

end Cancellation

/-! ### When a session is cancelled -/

/-- What the owner does about a session. -/
inductive CancelPlan where
  | never
  | leaves
  /-- It cancels before the session starts. -/
  | before
  /-- It cancels after so many milliseconds. -/
  | after (delay : Nat)
  deriving DecidableEq, Repr

/-- When the cancellation is seen, on a clock that shows `now` at the start. -/
def CancelPlan.time? (plan : CancelPlan) (now : Nat) : Option Nat :=
  match plan with
  | .never | .leaves => none
  | .before => some now
  | .after delay => some (now + delay)

end Resharing
