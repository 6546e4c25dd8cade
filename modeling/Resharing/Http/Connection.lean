import Resharing.Http.MediaType
import Resharing.Http.Target

/-!
# Requests on a connection

On a connection a request is a line with its method and its target, and headers. Blanks around
the value of a header are no part of it. What cannot stand in a request is answered before
anything behind the connection sees it.

## Main definitions

* `Request.arrive`: what arrives of a request, or the answer if it cannot be understood
-/

namespace Resharing.Http

/-- Whether a byte may stand in the target on a request line: it is neither a blank nor a
control character. -/
def isTargetByte (byte : UInt8) : Bool := 0x20 < byte && byte != 0x7F

/-- Whether a character is a blank within a line. -/
def isLineBlank (c : Char) : Bool := c = ' ' || c = '\t'

/-- Whether a character may stand in the value of a header. -/
def isHeaderChar (c : Char) : Bool := isLineBlank c || (' ' < c && c ≠ '\x7F')

/-- The value of a header without the blanks around it. -/
def trimHeader (value : String) : String :=
  String.ofList ((value.toList.dropWhile isLineBlank).reverse.dropWhile isLineBlank).reverse

/-- What arrives of a request on a connection, or the response to what is none. -/
def Request.arrive (request : Request) : Except Response Request :=
  let method := request.method.toList
  if method = [] ∨ !method.all isTokenChar ∨ !request.target.all isTargetByte ∨
      !(request.contentType.getD "").toList.all isHeaderChar then .error (.bare 400)
  else
    match Target.ofBytes request.target with
    | .error fault => .error (.bare fault.status)
    | .ok _ => .ok { request with contentType := request.contentType.map trimHeader }

end Resharing.Http
