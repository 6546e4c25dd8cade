import Resharing.Message.Basic

/-!
# Results to be published

What operators hand in at the end of a ceremony: signed outputs, collected in a
map from operators, or a blame message. Every output belongs to a request, named
in its data or in its validator signature.

## Main definitions

* `OperatorOutput`, `Blame`: what is handed in
* `OperatorOutput.request?`: the request an output belongs to
* `commonRequest`: the one request that all outputs belong to
-/

namespace Resharing

/-- The share that an operator hands in. -/
structure ShareData where
  request : SessionId
  encryptedShare : String
  sharePublicKey : String
  validatorKey : String
  deriving DecidableEq

def ShareData.format : Json.Format ShareData :=
  .record
    (.field "request_id" SessionId.format .refused
      (.field "encrypted_share" .text .refused
        (.field "share_pub_key" .text .refused
          (.field "validator_pk" .text .refused .done))))
    (fun data =>
      (data.request, data.encryptedShare, data.sharePublicKey, data.validatorKey, ()))
    (fun (request, encryptedShare, sharePublicKey, validatorKey, ()) =>
      ⟨request, encryptedShare, sharePublicKey, validatorKey⟩)

/-- A validator signature that an operator hands in. -/
structure KeySignature where
  request : SessionId
  signature : String
  deriving DecidableEq

/-- The written form of a validator signature. -/
def KeySignature.format : Json.Format KeySignature :=
  .record
    (.field "request_id" SessionId.format .refused
      (.field "validator_signature" .text .refused .done))
    (fun data => (data.request, data.signature, ()))
    (fun (request, signature, ()) => ⟨request, signature⟩)

/-- What one operator hands in. -/
structure OperatorOutput where
  share : Option ShareData
  /-- A validator signature, if it made one. -/
  keySignature : Option KeySignature
  signer : OperatorId
  signature : String
  deriving DecidableEq

namespace OperatorOutput

def format : Json.Format OperatorOutput :=
  .record
    (.field "data" (.option ShareData.format) (.fromRecord none)
      (.field "key_sign_data" (.option KeySignature.format) (.fromRecord none)
        (.field "signer" OperatorId.format .refused
          (.field "signature" .text .refused .done))))
    (fun output => (output.share, output.keySignature, output.signer, output.signature, ()))
    (fun (share, keySignature, signer, signature, ()) =>
      ⟨share, keySignature, signer, signature⟩)

/-- The request an output belongs to: that of its share, or else of its validator
signature. -/
def request? (output : OperatorOutput) : Option SessionId :=
  (output.share.map ShareData.request).or (output.keySignature.map KeySignature.request)

end OperatorOutput

abbrev Outputs := OperatorMap OperatorOutput

def Outputs.format : Json.Format Outputs := OperatorMap.format OperatorOutput.format

/-- A complaint about a message. -/
structure Blame where
  valid : Bool
  message : SignedMessage
  deriving DecidableEq

/-- The written form of a complaint. -/
def Blame.format : Json.Format Blame :=
  .record
    (.field "valid" .bool .refused (.field "blame_message" SignedMessage.format .refused .done))
    (fun blame => (blame.valid, blame.message, ()))
    (fun (valid, message, ()) => ⟨valid, message⟩)

/-- Checks, in the order of operators, that outputs belong to the request expected so
far; the first output sets it. -/
def commonRequestFrom (expected : Option SessionId) :
    List (OperatorId × OperatorOutput) → Except Error SessionId
  | [] =>
    match expected with
    | none => .error .noOperators
    | some id => .ok id
  | (operator, output) :: rest =>
    let named := (expected.map SessionId.hex).getD ""
    match output.request? with
    | none => .error (.inconsistentIdentifier named operator "none")
    | some found =>
      match expected with
      | none => commonRequestFrom (some found) rest
      | some id =>
        if id = found then commonRequestFrom expected rest
        else .error (.inconsistentIdentifier named operator found.hex)

/-- The request that all outputs belong to. The first operator whose output belongs to
none, or to another than the first operator's, is blamed. -/
def commonRequest (outputs : Outputs) : Except Error SessionId :=
  commonRequestFrom none outputs.entries

end Resharing
