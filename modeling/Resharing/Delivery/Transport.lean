import Resharing.Bytes
import Resharing.Delivery.Report

/-!
# Transports

A transport carries bytes to an address. What comes of a call is settled when it
starts: after how many milliseconds it ends, and how.

## Main definitions

* `Behaviour`: what comes of a call
* `Transport`: calls over a state
* `Traffic`: what has been observed of calls
-/

namespace Resharing

/-- How a call ends. -/
inductive Ending where
  /-- The recipient answers, or the call fails. -/
  | answer (result : Except DeliveryFault Unit)
  /-- The call takes the delivery down with it. -/
  | abort

/-- What comes of a call. -/
structure Behaviour where
  /-- The milliseconds until it ends; `none` if it never does. -/
  delay : Option Nat
  ending : Ending

def Behaviour.accepting : Behaviour := ⟨some 0, .answer (.ok ())⟩

/-- Calls to addresses, over a state. -/
structure Transport (τ : Type) where
  /-- Starts a call that carries some bytes to an address. -/
  call : String → Bytes → τ → Behaviour × τ

/-- The transport on which each address always behaves alike. -/
def Transport.ofBehaviour {τ : Type} (behaviour : String → Behaviour) : Transport τ :=
  ⟨fun address _ state => (behaviour address, state)⟩

/-- The transport on which the addresses of a table behave as it says, and others accept. -/
def Transport.ofList {τ : Type} (table : List (String × Behaviour)) : Transport τ :=
  .ofBehaviour fun address => (table.lookup address).getD .accepting

/-- What has been observed of calls. -/
structure Traffic where
  /-- When calls started, and to where, in order. -/
  started : List (Nat × String)
  accepted : List (String × Bytes)
  inFlight : Nat
  /-- How many calls at most have been under way. -/
  peak : Nat

namespace Traffic

def none : Traffic := ⟨[], [], 0, 0⟩

def begin (traffic : Traffic) (now : Nat) (address : String) : Traffic :=
  { traffic with
    started := traffic.started ++ [(now, address)]
    inFlight := traffic.inFlight + 1
    peak := max traffic.peak (traffic.inFlight + 1) }

def finish (traffic : Traffic) : Traffic := { traffic with inFlight := traffic.inFlight - 1 }

/-- The calls that have started, by time and then by address. -/
def startedInOrder (traffic : Traffic) : List (Nat × String) :=
  traffic.started.mergeSort fun left right =>
    decide (left.1 < right.1 ∨ (left.1 = right.1 ∧ left.2 ≤ right.2))

/-- How many different payloads have been accepted. -/
def distinctPayloads (traffic : Traffic) : Nat := (traffic.accepted.map Prod.snd).eraseDups.length

/-- Some bytes are accepted at an address. -/
def accept (traffic : Traffic) (address : String) (payload : Bytes) : Traffic :=
  { traffic with accepted := traffic.accepted ++ [(address, payload)] }

end Traffic

end Resharing
