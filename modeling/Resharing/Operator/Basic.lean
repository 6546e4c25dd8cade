import Resharing.Operator.Map

/-!
# Operators

What is known about an operator, and what an operator keeps from a key
generation. Keys are written in base sixteen; a missing public key is written as
`null` and may be left out.

## Main definitions

* `Operator`: id, address and public key
* `KeyGeneration`: share, public keys of all operators, validator key, threshold
-/

namespace Resharing

/-- What is known about an operator. -/
structure Operator where
  id : OperatorId
  address : String
  publicKey : Option Bytes
  deriving DecidableEq

namespace Operator

/-- An operator of which only the address is known. -/
def ofAddress (id : OperatorId) (address : String) : Operator := ⟨id, address, none⟩

/-- The written form of what is known about an operator. -/
def format : Json.Format Operator :=
  .record
    (.field "id" OperatorId.format .refused
      (.field "address" .text .refused
        (.field "public_key" (.option .hex) (.always none) .done)))
    (fun operator => (operator.id, operator.address, operator.publicKey, ()))
    (fun (id, address, publicKey, ()) => ⟨id, address, publicKey⟩)

end Operator

/-- The result of a key generation or resharing, as one operator keeps it. -/
structure KeyGeneration where
  share : Bytes
  /-- The public share of every operator. -/
  operatorKeys : OperatorMap Bytes
  validatorKey : Bytes
  threshold : UInt64
  deriving DecidableEq

namespace KeyGeneration

/-- Maps of keys as maps of texts. The last of equal ids wins before its text is read. -/
def keysFormat : Json.Format (OperatorMap Bytes) :=
  (OperatorMap.format .text).convert
    (fun keys => keys.map fun _ key => Hex.encode key)
    (fun texts => texts.mapM? fun text => (Hex.decode text).toOption)

/-- The written form of a key generation. -/
def format : Json.Format KeyGeneration :=
  .record
    (.field "share" .hex .refused
      (.field "operator_pub_keys" keysFormat .refused
        (.field "validator_pk" .hex .refused
          (.field "threshold" OperatorId.format .refused .done))))
    (fun output => (output.share, output.operatorKeys, output.validatorKey, output.threshold, ()))
    (fun (share, operatorKeys, validatorKey, threshold, ()) =>
      ⟨share, operatorKeys, validatorKey, threshold⟩)

/-- A description that leaves the share out. -/
def describe (output : KeyGeneration) : String :=
  "KeyGenOutput \x7b share: \"<redacted>\", operator_pub_keys: [" ++
    ", ".intercalate (output.operatorKeys.ids.map OperatorId.text) ++
    "], validator_pk: \"" ++ Hex.encode output.validatorKey ++ "\", threshold: " ++
    Decimal.text output.threshold.toNat ++ " \x7d"

end KeyGeneration

end Resharing
