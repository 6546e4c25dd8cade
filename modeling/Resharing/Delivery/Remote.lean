import Resharing.Delivery.Transport
import Resharing.Http.Network
import Resharing.Messenger.Remote

/-!
# Delivery over the network

The bytes are posted to the address of a recipient, who accepts them with the status 200 and
no other.

## Main definitions

* `RemoteDelivery.consume`: one call, waited for
* `RemoteDelivery.transport`: calls as a transport
-/

namespace Resharing.RemoteDelivery

/-- What carries bytes to an address. -/
def handover (address : String) (payload : Bytes) : Http.Inquiry :=
  .post (RemoteMessenger.trimSlashes address ++ "/consume") [] payload

/-- What a response says about a delivery. -/
def verdict (response : Http.Response) : Except DeliveryFault Unit :=
  if response.status = 200 then .ok () else .error (.status response.status)

/-- How a delivery ends without a response. -/
def faultOf : Http.SendFault → DeliveryFault
  | .late => .timeout
  | fault => .transport fault.message

def judge (result : Except Http.SendFault Http.Response) : Except DeliveryFault Unit :=
  (result.mapError faultOf).bind verdict

variable {σ : Type} (network : Http.Network σ)

/-- Carries bytes to an address and waits for the response. -/
def consume (address : String) (payload : Bytes) (state : σ) : Except DeliveryFault Unit × σ :=
  let (result, state) := network.ask (handover address payload) state
  (judge result, state)

/-- The transport over a network. A call that nothing answers never ends by itself. -/
def transport : Transport σ where
  call address payload state :=
    let (answer, state) := network.start (handover address payload) state
    let delay := match answer with
      | .ok .silence => none
      | _ => some 0
    (⟨delay, .answer (judge (answer.bind Http.Answer.result))⟩, state)

end Resharing.RemoteDelivery
