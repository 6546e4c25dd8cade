import Resharing.Crash
import Resharing.Http.Connection

/-!
# Access from other origins

A service behind this layer may be used from pages of any origin. A preflight, which is
any request with the method OPTIONS, is answered by the layer itself; of the service's
answer to it only the allowed methods stay. What is no request does not reach the layer.

## Main definitions

* `CrossOrigin.respond`: the response behind the layer
* `CrossOrigin.headers`: the headers it adds
* `CrossOrigin.serve`: what a service behind the layer answers on a connection
-/

namespace Resharing.CrossOrigin

/-- Headers with their values in order. -/
abbrev Headers := List (String × List String)

/-- Whether a method asks for permission only. -/
def isPreflight (method : String) : Bool := method = "OPTIONS"

/-- The response to a request that the service answers as given. -/
def respond (method : String) (answer : Http.Response) : Http.Response :=
  if isPreflight method then { Http.Response.bare 200 with allow := answer.allow } else answer

/-- The headers added to a response. -/
def headers (method : String) : Headers :=
  [("access-control-allow-origin", ["*"]),
    ("vary",
      ["access-control-request-headers", "access-control-request-method", "origin"])] ++
    if isPreflight method then
      [("access-control-allow-headers", ["*"]), ("access-control-allow-methods", ["*"])]
    else [("access-control-expose-headers", ["*"])]

/-- What a service behind the layer answers on a connection, and its state afterwards. -/
def serve {σ : Type} (service : Http.Request → σ → Except Crash (Http.Response × σ))
    (request : Http.Request) (state : σ) : Except Crash (Http.Response × Headers × σ) :=
  match request.arrive with
  | .error response => .ok (response, [], state)
  | .ok request => do
    let (answer, state) ← service request state
    return (respond request.method answer, headers request.method, state)

end Resharing.CrossOrigin
