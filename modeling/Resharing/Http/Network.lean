import Resharing.Directory.Basic
import Resharing.Http.Status
import Resharing.Http.Url

/-!
# Sending requests

A network carries requests to addresses, over a state. A request is answered, or nobody can be
reached, or no answer ever comes; whoever waits for an answer gives up after a time.

## Main definitions

* `Network`, `Answer`: what comes of a request
* `Network.ask`: sends a request to an address that is given as text
* `SendFault`: why there is no response
-/

namespace Resharing.Http

/-- What comes of a request. -/
inductive Answer where
  | response (response : Response)
  | unreachable
  /-- The request arrives, but nothing is answered. -/
  | silence
  deriving DecidableEq

/-- Carries requests to addresses, over a state. -/
structure Network (σ : Type) where
  /-- Sends a request to the authority of an address. -/
  send : Url → Request → σ → Answer × σ

/-- The network on which nobody can be reached. -/
def Network.empty {σ : Type} : Network σ := ⟨fun _ _ state => (.unreachable, state)⟩

/-- A network in a part of a state. -/
def Network.within {σ τ : Type} (network : Network τ) (part : Part σ τ) : Network σ where
  send url request state :=
    let (answer, inner) := network.send url request (part.of state)
    (answer, part.replace state inner)

/-- Why there is no response. -/
inductive SendFault where
  | badAddress
  | unreachable
  | late
  deriving DecidableEq, Repr

/-- The wording of a request without a response. -/
def SendFault.message (fault : SendFault) : String :=
  "error sending request: " ++ match fault with
  | .badAddress => "no such address"
  | .unreachable => "nobody can be reached"
  | .late => "no answer in time"

/-- What is to be sent to an address. -/
structure Inquiry where
  method : String
  address : String
  /-- Fields for the query of the address. -/
  fields : List (String × String)
  /-- The type and the content of the body, if there is one. -/
  body : Option (String × Bytes)

namespace Inquiry

/-- Asks for what is at an address. -/
def get (address : String) : Inquiry := ⟨"GET", address, [], none⟩

def post (address : String) (fields : List (String × String)) (json : Bytes) : Inquiry :=
  ⟨"POST", address, fields, some (Response.jsonType, json)⟩

/-- The address and the request that is sent there. Nothing is sent to an address that has
become too long. -/
def request? (inquiry : Inquiry) : Option (Url × Request) := do
  let url ← Url.ofText? inquiry.address
  let url := if inquiry.fields = [] then url else url.withFields inquiry.fields
  if Url.maxLength < url.length then none
  else return (url, ⟨inquiry.method, url.target, inquiry.body.map Prod.fst,
    (inquiry.body.map Prod.snd).getD []⟩)

end Inquiry

/-- A response as it is received: some never have a body. -/
def Response.received (response : Response) : Response :=
  if Status.isBodiless response.status then response.withoutBody else response

/-- The response in an answer that has been waited for. After one that is not final nothing
more comes. -/
def Answer.result : Answer → Except SendFault Response
  | .response reply =>
    if Status.isFinal reply.status then .ok reply.received else .error .unreachable
  | .unreachable => .error .unreachable
  | .silence => .error .late

namespace Network

variable {σ : Type} (network : Network σ)

/-- Sends what is to be sent, and does not wait. -/
def start (inquiry : Inquiry) (state : σ) : Except SendFault Answer × σ :=
  match inquiry.request? with
  | none => (.error .badAddress, state)
  | some (url, request) =>
    let (answer, state) := network.send url request state
    (.ok answer, state)

/-- Sends what is to be sent, and waits for the response. -/
def ask (inquiry : Inquiry) (state : σ) : Except SendFault Response × σ :=
  let (answer, state) := network.start inquiry state
  (answer.bind Answer.result, state)

end Network

end Resharing.Http
