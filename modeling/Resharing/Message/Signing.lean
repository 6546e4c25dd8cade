import Resharing.Digest.Sha2
import Resharing.Message.Basic
import Resharing.Signature.Scheme
import Resharing.Text.Blank

/-!
# Signing messages

What is signed is the digest of a message's written form, so a signature binds the
session, the ceremony and the data. A signer is anything that can answer for an
operator; most are made from a seed and a signature scheme.

## Main definitions

* `KeyMessage.root`: what is signed of a message
* `SignedMessage.verify`: checks a signature
* `Signer`, `Signer.ofSeed`: who signs
* `Seed.ofHex`: the seed that a text spells
-/

namespace Resharing

/-- What is signed of a message: the digest of its written form. -/
def KeyMessage.root (message : KeyMessage) : Bytes :=
  Sha2.digest Sha2.short (KeyMessage.format.encode message)

/-- Checks the signature of a message against a public key. A signature of the wrong
length is unreadable rather than wrong. -/
def SignedMessage.verify (scheme : SignatureScheme) (key : Bytes) (signed : SignedMessage) :
    Except Error Unit :=
  if signed.signature.length ≠ 64 then .error (.unreadable .signatureLength)
  else if scheme.accepts key signed.message.root signed.signature then .ok ()
  else .error .badSignature

/-- The seed that a text of base sixteen, trimmed, spells. -/
def Seed.ofHex (text : String) : Except Error Seed :=
  match Hex.decode (Text.trim text) with
  | .error fault => .error (.badSignerKey (.notHex fault))
  | .ok bytes =>
    match Seed.ofBytes? bytes with
    | some seed => .ok seed
    | none => .error (.badSignerKey .wrongLength)

def Seed.hex (seed : Seed) : String := Hex.encode seed.bytes

/-- Someone who signs for an operator. -/
structure Signer where
  id : OperatorId
  sign : KeyMessage → Except Error SignedMessage

namespace Signer

/-- The signer whose keys are made from a seed. It never refuses. -/
def ofSeed (scheme : SignatureScheme) (id : OperatorId) (seed : Seed) : Signer where
  id := id
  sign message := .ok ⟨message, id, scheme.sign seed message.root⟩

/-- A signer that refuses every message. -/
def refusing (id : OperatorId) (reason : String) : Signer where
  id := id
  sign _ := .error (.badSignerKey (.refused reason))

end Signer

end Resharing
