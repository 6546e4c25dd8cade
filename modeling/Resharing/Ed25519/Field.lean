import Resharing.Bytes

/-!
# The field of the twisted Edwards curve

Numbers modulo the prime 2^255 - 19, with their written form of thirty-two bytes,
lowest first. Inverses and square roots are powers.

## Main definitions

* `Ed25519.Field`: residues modulo the prime
* `Field.invert`, `Field.ratioRoot?`: inverses and square roots of quotients
* `littleEndian`, `bytesOfNat`: numbers and their bytes, lowest first
-/

namespace Resharing.Ed25519

/-- The number whose bytes are given, lowest first. -/
def littleEndian : Bytes → Nat
  | [] => 0
  | byte :: rest => byte.toNat + 256 * littleEndian rest

/-- The lowest `count` bytes of a number, lowest first. -/
def bytesOfNat : Nat → Nat → Bytes
  | 0, _ => []
  | count + 1, value => UInt8.ofNat (value % 256) :: bytesOfNat count (value / 256)

def prime : Nat := Nat.pow 2 255 - 19

instance : @NeZero Nat Zero.ofOfNat0 prime := ⟨by decide⟩

abbrev Field := Fin prime

namespace Field

/-- The element that a number stands for. -/
def ofNat (n : Nat) : Field := Fin.ofNat prime n

/-- A power of an element, by repeated squaring. -/
def power (x : Field) (exponent : Nat) : Field :=
  if _ : exponent = 0 then 1
  else
    let half := power (x * x) (exponent / 2)
    if exponent % 2 = 1 then x * half else half
termination_by exponent
decreasing_by omega

/-- The inverse of an element other than zero. -/
def invert (x : Field) : Field := x.power (prime - 2)

def imaginary : Field := (2 : Field).power ((prime - 1) / 4)

/-- An element whose bytes are read with the highest bit left out. -/
def ofBytes (bytes : Bytes) : Field := ofNat (littleEndian bytes % Nat.pow 2 255)

/-- An element counts as negative when it is odd. -/
def isNegative (x : Field) : Bool := x.val % 2 == 1

/-- The root of `u / v` that is not negative, if there is one. -/
def ratioRoot? (u v : Field) : Option Field :=
  let cube := v * v * v
  let root := u * cube * (u * cube * cube * v).power ((prime - 5) / 8)
  let check := v * root * root
  let found :=
    if check = u then some root
    else if check = -u then some (root * imaginary)
    else none
  found.map fun root => if root.isNegative then -root else root

end Field

end Resharing.Ed25519
