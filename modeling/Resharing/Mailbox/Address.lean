import Resharing.Digest.Blake3
import Resharing.Text.Hex

/-!
# Names of messages

A message is named by the digest of its topic, a colon and its content, in base
sixteen.
-/

namespace Resharing.Mailbox

/-- What the name of a message is the digest of. -/
def preimage (topic : String) (payload : Bytes) : Bytes :=
  Bytes.ofText topic ++ Bytes.ofText ":" ++ payload

/-- The name of a message under a digest. -/
def nameWith (digest : Bytes → Bytes) (topic : String) (payload : Bytes) : String :=
  Hex.encode (digest (preimage topic payload))

def name (topic : String) (payload : Bytes) : String := nameWith Blake3.digest topic payload

end Resharing.Mailbox
