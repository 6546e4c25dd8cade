import Resharing.Operator.Map
import Resharing.Session.Id
import Resharing.Text.Base64

/-!
# What can go wrong

Every failure is a cause; `Error.message` is the one place where causes are put
into words.

## Main definitions

* `Error`: the causes
* `Unreadable`, `KeyFault`, `SeedFault`: causes inside causes
* `Error.message`: their wording
-/

namespace Resharing

/-- Why a validator key was refused. -/
inductive KeyFault where
  /-- The given text is not in base sixteen. -/
  | notHex (given : String) (fault : Hex.Fault)
  | empty
  deriving DecidableEq, Repr

/-- The wording of a refused validator key. -/
def KeyFault.message : KeyFault → String
  | .notHex given fault => given ++ ": " ++ fault.message
  | .empty => "empty key"

/-- Why a signing key was refused. -/
inductive SeedFault where
  | notHex (fault : Hex.Fault)
  /-- The seed does not have thirty-two bytes. -/
  | wrongLength
  | refused (reason : String)
  deriving DecidableEq, Repr

/-- The wording of a refused signing key. -/
def SeedFault.message : SeedFault → String
  | .notHex fault => fault.message
  | .wrongLength => "seed must be 32 bytes"
  | .refused reason => reason

/-- Why something could not be read. -/
inductive Unreadable where
  | sessionId (fault : SessionId.Fault)
  | json (fault : Json.Fault)
  /-- The stored bytes of a key generation are not its written form. -/
  | keyGeneration (fault : Json.Fault)
  /-- An envelope holds a message of another kind. -/
  | notKeyMessage (kind : String)
  /-- A signature does not have sixty-four bytes. -/
  | signatureLength
  /-- A payload is not in base sixty-four. -/
  | payload (fault : Base64.Fault)
  | reply
  deriving DecidableEq, Repr

/-- The wording of what could not be read. -/
def Unreadable.message : Unreadable → String
  | .sessionId fault => fault.message
  | .json fault => fault.message
  | .keyGeneration fault => "key generation output: " ++ fault.message
  | .notKeyMessage kind => "Expected DKG transport message, got " ++ kind
  | .signatureLength => "signature must be 64 bytes"
  | .payload fault => fault.message
  | .reply => "error decoding response body"

/-- Why something failed. -/
inductive Error where
  /-- An operator specification is not of the form `id=address`. -/
  | malformedSpec (spec : String)
  /-- The id of an operator specification is no number. -/
  | badOperatorId (spec : String) (reason : Decimal.Fault)
  | badValidatorKey (reason : KeyFault)
  /-- The threshold does not fit the number of operators. -/
  | badThreshold (threshold operators : Nat)
  | noOperators
  | topicNotCreated (cause : Error)
  /-- The initiation could not be composed. -/
  | notComposed (cause : Error)
  | notRegistered (attempts : Nat) (failures : List String)
  | operatorNotFound (id : OperatorId)
  | directory (reason : String)
  | storage (reason : String)
  | messenger (reason : String)
  | badSignerKey (reason : SeedFault)
  /-- A signature does not belong to the message. -/
  | badSignature
  /-- Outputs that belong together carry different identifiers. -/
  | inconsistentIdentifier (expected : String) (operator : OperatorId) (found : String)
  | unreadable (reason : Unreadable)
  | cancelled
  deriving DecidableEq, Repr

def Error.message : Error → String
  | .malformedSpec spec => "Operator " ++ spec ++ " is not in the form of key=value"
  | .badOperatorId spec reason => "Invalid operator ID in " ++ spec ++ ": " ++ reason.message
  | .badValidatorKey reason => "Invalid validator public key encoding: " ++ reason.message
  | .badThreshold threshold operators =>
    "Invalid threshold " ++ Decimal.text threshold ++ " for " ++ Decimal.text operators ++
      " operators"
  | .noOperators => "Operator set is empty"
  | .topicNotCreated cause => "Failed to create topic on messenger service: " ++ cause.message
  | .notComposed cause => "Failed to compose initiation message: " ++ cause.message
  | .notRegistered attempts failures =>
    "Failed to register node after " ++ Decimal.text attempts ++ " attempts: " ++
      Text.Quoted.list failures
  | .operatorNotFound id => "Operator not found: " ++ id.text
  | .directory reason => "Directory error: " ++ reason
  | .storage reason => "Storage error: " ++ reason
  | .messenger reason => "Messenger error: " ++ reason
  | .badSignerKey reason => "Invalid signer key: " ++ reason.message
  | .badSignature => "Invalid signature"
  | .inconsistentIdentifier expected operator found =>
    "Inconsistent identifier: expected " ++ expected ++ ", operator " ++ operator.text ++
      " has " ++ found
  | .unreadable reason => "Deserialization error: " ++ reason.message
  | .cancelled => "Session cancelled"

end Resharing
