import Resharing.Http.Form

/-!
# Authorities in targets

An authority names a host, perhaps with credentials in front of an at sign and a port behind a
colon. Whether bytes may stand as one is decided from left to right. Brackets enclose a host
that has colons of its own, and only credentials and such a host may hold escaped bytes.

## Main definitions

* `Authority.Reading`, `Authority.Reading.step`: what has been seen of an authority
* `Authority.accepts`: whether bytes are an authority
-/

namespace Resharing.Http.Authority

/-- What has been seen of an authority. Credentials and a host in brackets are over and done
with at their end: what has been seen of them counts no more. -/
structure Reading where
  colons : Nat
  escaped : Bool
  opened : Bool
  closed : Bool
  afterAt : Bool
  deriving DecidableEq, Repr

/-- The other bytes that may stand in an authority. -/
def isPlain (byte : UInt8) : Bool :=
  Form.isAlphanumeric byte || "!$&'()*+,-.;=_~".toList.any fun c => byte == c.toUInt8

/-- How many colons a host in brackets may have in front of a port. -/
def maxColons : Nat := 8

namespace Reading

def start : Reading := ⟨0, false, false, false, false⟩

/-- What has been seen behind one more byte, unless it may not stand there. -/
def step (seen : Reading) (byte : UInt8) : Option Reading :=
  let seen := { seen with afterAt := false }
  if byte = ':'.toUInt8 then
    if seen.colons < maxColons then some { seen with colons := seen.colons + 1 } else none
  else if byte = '['.toUInt8 then
    if seen.escaped || seen.opened then none else some { seen with opened := true }
  else if byte = ']'.toUInt8 then
    if seen.opened && !seen.closed then some ⟨0, false, true, true, false⟩ else none
  else if byte = '@'.toUInt8 then
    some { seen with colons := 0, escaped := false, afterAt := true }
  else if byte = '%'.toUInt8 then some { seen with escaped := true }
  else if isPlain byte then some seen
  else none

/-- Whether an authority may end here. -/
def mayEnd (seen : Reading) : Bool :=
  seen.opened == seen.closed && seen.colons ≤ 1 && !seen.afterAt && !seen.escaped

end Reading

/-- Whether bytes are an authority. There has to be something. -/
def accepts (bytes : Bytes) : Bool :=
  bytes ≠ [] && (bytes.foldlM Reading.step .start).any Reading.mayEnd

end Resharing.Http.Authority
