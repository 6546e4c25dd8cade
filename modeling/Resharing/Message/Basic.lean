import Resharing.Session.Basic

/-!
# Messages to operators

The parameters of a resharing travel as the data of a key message; the message is
signed; the signed message travels in an envelope that tells its kind. Each layer
holds the written form of the next as bytes.

## Main definitions

* `SessionTerms`, `KeyMessage`, `SignedMessage`, `Envelope`: the layers, outermost last
* `Envelope.ofSigned`, `Envelope.signed`: putting a signed message into an envelope and back
-/

namespace Resharing

/-- What the operators are told about a resharing. -/
structure SessionTerms where
  operatorIds : List OperatorId
  threshold : UInt16
  /-- The validator's public key in base sixteen. -/
  validatorKey : String
  oldOperatorIds : List OperatorId
  deriving DecidableEq

namespace SessionTerms

/-- The written form of the parameters. -/
def format : Json.Format SessionTerms :=
  .record
    (.field "operator_ids" (.list OperatorId.format) .refused
      (.field "threshold" Session.thresholdFormat .refused
        (.field "validator_pk" .text .refused
          (.field "old_operator_ids" (.list OperatorId.format) .refused .done))))
    (fun params =>
      (params.operatorIds, params.threshold, params.validatorKey, params.oldOperatorIds, ()))
    (fun (operatorIds, threshold, validatorKey, oldOperatorIds, ()) =>
      ⟨operatorIds, threshold, validatorKey, oldOperatorIds⟩)

def ofSession (session : Session) : SessionTerms where
  operatorIds := session.operators.ids
  threshold := session.threshold
  validatorKey := Hex.encode session.validatorKey
  oldOperatorIds := session.oldOperators.ids

end SessionTerms

/-- What a key message starts. -/
inductive Ceremony where
  | init
  | reshare
  deriving DecidableEq, Repr

namespace Ceremony

def name : Ceremony → String
  | .init => "init"
  | .reshare => "reshare"

def format : Json.Format Ceremony := .choice name [.init, .reshare]

end Ceremony

/-- A message about a key, before it is signed. -/
structure KeyMessage where
  ceremony : Ceremony
  session : SessionId
  data : Bytes
  deriving DecidableEq

/-- The written form of a key message. -/
def KeyMessage.format : Json.Format KeyMessage :=
  .record
    (.field "msg_type" Ceremony.format .refused
      (.field "identifier" SessionId.format .refused
        (.field "data" .bytes .refused .done)))
    (fun message => (message.ceremony, message.session, message.data, ()))
    (fun (ceremony, session, data, ()) => ⟨ceremony, session, data⟩)

/-- A key message with a signature. -/
structure SignedMessage where
  message : KeyMessage
  signer : OperatorId
  signature : Bytes
  deriving DecidableEq

/-- The written form of a signed message. -/
def SignedMessage.format : Json.Format SignedMessage :=
  .record
    (.field "message" KeyMessage.format .refused
      (.field "signer" OperatorId.format .refused
        (.field "signature" .bytes .refused .done)))
    (fun signed => (signed.message, signed.signer, signed.signature, ()))
    (fun (message, signer, signature, ()) => ⟨message, signer, signature⟩)

/-- The kind of message in an envelope. -/
inductive EnvelopeKind where
  /-- A message between signing operators. -/
  | consensus
  | keyMessage
  deriving DecidableEq, Repr

namespace EnvelopeKind

def name : EnvelopeKind → String
  | .consensus => "consensus"
  | .keyMessage => "dkg"

def describe : EnvelopeKind → String
  | .consensus => "Consensus"
  | .keyMessage => "Dkg"

def format : Json.Format EnvelopeKind := .choice name [.consensus, .keyMessage]

end EnvelopeKind

/-- A message on its way. -/
structure Envelope where
  kind : EnvelopeKind
  data : Bytes
  deriving DecidableEq

namespace Envelope

/-- The written form of an envelope. -/
def format : Json.Format Envelope :=
  .record
    (.field "msg_type" EnvelopeKind.format .refused (.field "data" .bytes .refused .done))
    (fun envelope => (envelope.kind, envelope.data, ()))
    (fun (kind, data, ()) => ⟨kind, data⟩)

/-- The envelope of a signed message. -/
def ofSigned (signed : SignedMessage) : Envelope :=
  ⟨.keyMessage, SignedMessage.format.encode signed⟩

/-- The signed message in an envelope. -/
def signed (envelope : Envelope) : Except Error SignedMessage :=
  match envelope.kind with
  | .consensus => .error (.unreadable (.notKeyMessage envelope.kind.describe))
  | .keyMessage =>
    (SignedMessage.format.decode envelope.data).mapError fun fault => .unreadable (.json fault)

end Envelope

end Resharing
