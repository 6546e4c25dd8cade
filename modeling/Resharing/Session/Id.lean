import Resharing.Json.Format

/-!
# Session identifiers

A session is named by sixteen bytes. They are shown in base sixteen and written
in JSON as a list of numbers.
-/

namespace Resharing

/-- The sixteen bytes that name a session. -/
structure SessionId where
  bytes : Bytes
  length_bytes : bytes.length = 16
  deriving DecidableEq

namespace SessionId

/-- The identifier made of some bytes, if there are sixteen. -/
def ofBytes? (bytes : Bytes) : Option SessionId :=
  if length : bytes.length = 16 then some ⟨bytes, length⟩ else none

/-- The identifier in base sixteen. -/
def hex (id : SessionId) : String := Hex.encode id.bytes

/-- Why a text names no session. -/
inductive Fault where
  | notHex (fault : Hex.Fault)
  | wrongLength
  deriving DecidableEq, Repr

/-- The text a fault is reported with. -/
def Fault.message : Fault → String
  | .notHex fault => fault.message
  | .wrongLength => "Session ID must be 16 bytes"

/-- The identifier that a text of base sixteen names. -/
def ofHex (text : String) : Except Fault SessionId :=
  match Hex.decode text with
  | .error fault => .error (.notHex fault)
  | .ok bytes =>
    match ofBytes? bytes with
    | some id => .ok id
    | none => .error .wrongLength

/-- Identifiers as lists of numbers. -/
def format : Json.Format SessionId := Json.Format.bytes.convert SessionId.bytes ofBytes?

end SessionId

end Resharing
