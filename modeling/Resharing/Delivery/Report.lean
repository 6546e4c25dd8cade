import Resharing.Operator.Map
import Resharing.Session.Id

/-!
# Reports on deliveries

A report has one outcome per recipient, in the order of their numbers.

## Main definitions

* `DeliveryFault`, `DeliveryStatus`: how a delivery ends
* `Outcome`, `Report`: what is reported
-/

namespace Resharing

/-- Why a delivery failed. -/
inductive DeliveryFault where
  /-- The recipient could not be talked to. -/
  | transport (reason : String)
  /-- The recipient answered with an unexpected status. -/
  | status (code : Nat)
  | timeout
  deriving DecidableEq, Repr

/-- The wording of a failed delivery. -/
def DeliveryFault.message : DeliveryFault → String
  | .transport reason => "transport error: " ++ reason
  | .status code => "unexpected status " ++ Decimal.text code
  | .timeout => "request timed out"

/-- How a delivery ended. -/
inductive DeliveryStatus where
  | delivered
  | failed (fault : DeliveryFault)
  /-- The session was cancelled before the delivery ended. -/
  | cancelled
  deriving DecidableEq, Repr

/-- How the delivery to one recipient ended. -/
structure Outcome where
  id : OperatorId
  address : String
  status : DeliveryStatus
  deriving DecidableEq, Repr

/-- How the deliveries of a session ended. -/
structure Report where
  session : SessionId
  outcomes : List Outcome
  deriving DecidableEq

namespace Report

/-- The outcomes of recipients that accepted. -/
def delivered (report : Report) : List Outcome :=
  report.outcomes.filter fun outcome => outcome.status = .delivered

/-- The outcomes of deliveries that failed. -/
def failures (report : Report) : List Outcome :=
  report.outcomes.filter fun outcome =>
    match outcome.status with
    | .failed _ => true
    | _ => false

/-- The outcomes of deliveries cut short. -/
def cancelled (report : Report) : List Outcome :=
  report.outcomes.filter fun outcome => outcome.status = .cancelled

/-- Whether every recipient accepted. -/
def isComplete (report : Report) : Bool :=
  report.outcomes.all fun outcome => outcome.status = .delivered

end Report

end Resharing
