import Resharing.Json.Value

/-!
# Requests and responses

## Main definitions

* `Http.Request`, `Http.Response`
* `Http.Target`: a path in segments and a query
-/

namespace Resharing.Http

/-- What a request asks for. -/
structure Request where
  method : String
  /-- The path and the query as they are sent. -/
  target : Bytes
  /-- The type of the body, if it is told. -/
  contentType : Option String
  body : Bytes
  deriving DecidableEq

/-- What is answered. -/
structure Response where
  status : Nat
  /-- The type of the body, if it is told. -/
  contentType : Option String
  body : Bytes
  /-- The methods that are allowed, where that is told. -/
  allow : List String
  deriving DecidableEq

namespace Response

def jsonType : String := "application/json"

def json (status : Nat) (value : Json.Value) : Response :=
  ⟨status, some jsonType, value.compact, []⟩

def bare (status : Nat) : Response := ⟨status, none, [], []⟩

def bytes (body : Bytes) : Response := ⟨200, some "application/octet-stream", body, []⟩

/-- A request that cannot be understood is refused in plain words. -/
def refusal (status : Nat) : Response :=
  ⟨status, some "text/plain; charset=utf-8", Bytes.ofText "The request cannot be understood.", []⟩

/-- A method that the path does not know. -/
def methodNotAllowed (allow : List String) : Response := ⟨405, none, [], allow⟩

def withoutBody (response : Response) : Response := { response with body := [] }

/-- Whether the response says that all went well. -/
def isSuccess (response : Response) : Bool := 200 ≤ response.status && response.status < 300

end Response

/-- Where a request goes. -/
structure Target where
  /-- The segments of the path after its leading slash, still escaped. -/
  segments : List Bytes
  query : Bytes
  deriving DecidableEq

end Resharing.Http
