import Resharing.Digest.Sha2
import Resharing.Ed25519.Point
import Resharing.Signature.Scheme

/-!
# Ed25519 signatures

The seed is stretched to a secret factor and a hidden text. A signature is a point R,
made from the hidden text and the message, and a number s below the order. It is
accepted when s is below the order, neither R nor the public key is of small order,
and [s]B - [k]A is written exactly as R.

## Main definitions

* `Ed25519.publicKey`, `Ed25519.sign`, `Ed25519.accepts`
* `Ed25519.scheme`: the three as a signature scheme
-/

namespace Resharing.Ed25519

/-- The number that a digest of 512 bits stands for, below the order. -/
def scalarOfDigest (bytes : Bytes) : Nat :=
  littleEndian (Sha2.digest Sha2.long bytes) % Point.order

/-- The secret factor and the hidden text of a seed. -/
def stretch (seed : Seed) : Nat × Bytes :=
  let digest := Sha2.digest Sha2.long seed.bytes
  let number := littleEndian (digest.take 32)
  (Nat.pow 2 254 + number % Nat.pow 2 254 / 8 * 8, digest.drop 32)

def publicKey (seed : Seed) : Bytes := (Point.base.multiple (stretch seed).1).compress

def sign (seed : Seed) (message : Bytes) : Bytes :=
  let (factor, hidden) := stretch seed
  let key := publicKey seed
  let nonce := scalarOfDigest (hidden ++ message)
  let point := (Point.base.multiple nonce).compress
  let challenge := scalarOfDigest (point ++ key ++ message)
  point ++ bytesOfNat 32 ((nonce + challenge * factor) % Point.order)

/-- Whether bytes are the written form of a point. -/
def isPublicKey (key : Bytes) : Bool := (Point.decompress? key).isSome

/-- Whether a signature belongs to a public key and a message. -/
def accepts (key message signature : Bytes) : Bool :=
  let point := signature.take 32
  let s := littleEndian (signature.drop 32)
  match Point.decompress? key, Point.decompress? point with
  | some keyPoint, some signaturePoint =>
    let challenge := scalarOfDigest (point ++ key ++ message)
    let expected :=
      (Point.base.multiple s).add (keyPoint.negate.multiple challenge)
    decide (s < Point.order) && !signaturePoint.isSmallOrder && !keyPoint.isSmallOrder &&
      expected.compress == point
  | _, _ => false

def scheme : SignatureScheme := ⟨isPublicKey, publicKey, sign, accepts⟩

end Resharing.Ed25519
