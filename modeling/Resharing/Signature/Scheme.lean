import Resharing.Bytes

/-!
# Signature schemes

A scheme makes a public key and signatures from a seed of thirty-two bytes and
accepts or refuses a signature of sixty-four. What is built on signatures works
with any scheme.

## Main definitions

* `Seed`: the secret of a signer
* `SignatureScheme`: public keys, signing and accepting
* `SignatureScheme.AcceptsOwn`: the law that own signatures are accepted
-/

namespace Resharing

/-- The thirty-two bytes that a signer's keys are made from. -/
structure Seed where
  bytes : Bytes
  length_bytes : bytes.length = 32
  deriving DecidableEq

/-- The seed made of some bytes, if there are thirty-two. -/
def Seed.ofBytes? (bytes : Bytes) : Option Seed :=
  if length : bytes.length = 32 then some ⟨bytes, length⟩ else none

/-- The bytes determine the seed. -/
theorem Seed.ext_bytes {left right : Seed} (same : left.bytes = right.bytes) : left = right := by
  cases left; cases right; simp_all

/-- A way of signing. -/
structure SignatureScheme where
  isPublicKey : Bytes → Bool
  publicKey : Seed → Bytes
  sign : Seed → Bytes → Bytes
  /-- Whether a signature belongs to a public key and a message. -/
  accepts : Bytes → Bytes → Bytes → Bool

namespace SignatureScheme

/-- Signatures have sixty-four bytes and are accepted with the signer's public key. -/
structure AcceptsOwn (scheme : SignatureScheme) : Prop where
  length_sign : ∀ seed message, (scheme.sign seed message).length = 64
  accepts_sign : ∀ seed message,
    scheme.accepts (scheme.publicKey seed) message (scheme.sign seed message) = true

end SignatureScheme

end Resharing
