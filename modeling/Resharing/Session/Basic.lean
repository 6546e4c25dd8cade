import Resharing.Operator.Spec

/-!
# Resharing sessions

A request names the new and the old operators, a threshold and a validator key in
the form in which a person gives them. A session is a request that was accepted:
its operators are maps, its key is bytes, and its threshold can be met by the new
operators.

## Main definitions

* `Request`: what is asked for
* `Session`: what was accepted
* `Session.accept`: the session of a request, or the first reason against it
* `Session.allIds`, `Session.addressOf`: old and new operators together
-/

namespace Resharing

/-- A request for a resharing. -/
structure Request where
  /-- Specifications of the new operators. -/
  operators : List String
  /-- Specifications of the old operators. -/
  oldOperators : List String
  /-- How many new operators are to sign together. -/
  threshold : UInt64
  /-- The validator's public key in base sixteen. -/
  validatorKey : String
  deriving DecidableEq, Inhabited

def Request.format : Json.Format Request :=
  .record
    (.field "operators" (.list .text) .refused
      (.field "old_operators" (.list .text) .refused
        (.field "threshold" OperatorId.format .refused
          (.field "validator_pk" .text .refused .done))))
    (fun request =>
      (request.operators, request.oldOperators, request.threshold, request.validatorKey, ()))
    (fun (operators, oldOperators, threshold, validatorKey, ()) =>
      ⟨operators, oldOperators, threshold, validatorKey⟩)

/-- An accepted resharing. -/
structure Session where
  id : SessionId
  /-- The addresses of the new operators. -/
  operators : OperatorMap String
  /-- The addresses of the old operators. -/
  oldOperators : OperatorMap String
  /-- How many new operators sign together. -/
  threshold : UInt16
  validatorKey : Bytes
  deriving DecidableEq

namespace Session

def thresholdFormat : Json.Format UInt16 :=
  (Json.Format.natural UInt16.size).convert UInt16.toNat fun n => some (UInt16.ofNat n)

def format : Json.Format Session :=
  .record
    (.field "session_id" SessionId.format .refused
      (.field "operators" (OperatorMap.format .text) .refused
        (.field "old_operators" (OperatorMap.format .text) .refused
          (.field "threshold" thresholdFormat .refused
            (.field "validator_pk" .bytes .refused .done)))))
    (fun session =>
      (session.id, session.operators, session.oldOperators, session.threshold,
        session.validatorKey, ()))
    (fun (id, operators, oldOperators, threshold, validatorKey, ()) =>
      ⟨id, operators, oldOperators, threshold, validatorKey⟩)

/-- The validator key that a text of base sixteen, trimmed, spells. -/
def readKey (text : String) : Except KeyFault Bytes :=
  match Hex.decode (Text.trim text) with
  | .error fault => .error (.notHex text fault)
  | .ok [] => .error .empty
  | .ok key => .ok key

/-- Whether a number of operators can meet a threshold that two bytes can hold. -/
def thresholdFits (threshold operators : Nat) : Bool :=
  0 < threshold && threshold ≤ operators && threshold < UInt16.size

/-- The session of a request under a name. What is wrong first is reported: the new
operators, the old ones, the key, then the threshold, which counts each new operator
once. -/
def accept (id : SessionId) (request : Request) : Except Error Session := do
  let operators ← Operator.Spec.parseAll request.operators
  let oldOperators ← Operator.Spec.parseAll request.oldOperators
  let validatorKey ← (readKey request.validatorKey).mapError .badValidatorKey
  let threshold := request.threshold.toNat
  if operators.size = 0 then .error .noOperators
  else if thresholdFits threshold operators.size then
    .ok ⟨id, operators, oldOperators, UInt16.ofNat threshold, validatorKey⟩
  else .error (.badThreshold threshold operators.size)

/-- The ids of new and old operators, ascending, each once. -/
def allIds (session : Session) : List OperatorId :=
  (session.operators.union session.oldOperators).ids

/-- The address of an operator. Its address as a new operator comes first. -/
def addressOf (session : Session) (id : OperatorId) : Option String :=
  (session.operators.find? id).or (session.oldOperators.find? id)

end Session

end Resharing
