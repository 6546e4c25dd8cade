import Resharing.Message.Signing

/-!
# The message that starts a resharing

The parameters of a session, signed and put into an envelope. The same bytes go to
every operator.

## Main definitions

* `Initiation`: the bytes and the session they start
* `Initiation.compose`: the initiation of a session, signed
-/

namespace Resharing

/-- The message that starts a session. -/
structure Initiation where
  session : SessionId
  payload : Bytes
  deriving DecidableEq

namespace Initiation

/-- The message to be signed for a session. -/
def message (session : Session) : KeyMessage :=
  ⟨.reshare, session.id, SessionTerms.format.encode (.ofSession session)⟩

/-- The initiation of a session. Only the signer can fail. -/
def compose (session : Session) (signer : Signer) : Except Error Initiation :=
  match signer.sign (message session) with
  | .ok signed => .ok ⟨session.id, Envelope.format.encode (.ofSigned signed)⟩
  | .error cause => .error (.notComposed cause)

end Initiation

end Resharing
