import Resharing.Ed25519.Field

/-!
# Points of the twisted Edwards curve

The curve is -x² + y² = 1 + d x² y². A point is kept as X, Y, Z and T with x = X / Z,
y = Y / Z and x y = T / Z, so that adding needs no division. Its written form is y
with the sign of x in the highest bit.

## Main definitions

* `Ed25519.Point`, `Point.add`, `Point.multiple`
* `Point.compress`, `Point.decompress?`: writing and reading
* `Point.base`, `Point.order`: the base point and the order of its multiples
-/

namespace Resharing.Ed25519

def coefficient : Field := -(121665 : Field) * (121666 : Field).invert

/-- A point in extended coordinates. -/
structure Point where
  x : Field
  y : Field
  z : Field
  t : Field

namespace Point

/-- The point with the given coordinates. -/
def ofAffine (x y : Field) : Point := ⟨x, y, 1, x * y⟩

def zero : Point := ofAffine 0 1

/-- The sum of two points; equal ones are no exception. -/
def add (p q : Point) : Point :=
  let a := (p.y - p.x) * (q.y - q.x)
  let b := (p.y + p.x) * (q.y + q.x)
  let c := p.t * (coefficient + coefficient) * q.t
  let d := (p.z + p.z) * q.z
  let e := b - a
  let f := d - c
  let g := d + c
  let h := b + a
  ⟨e * f, g * h, f * g, e * h⟩

def negate (p : Point) : Point := ⟨-p.x, p.y, p.z, -p.t⟩

/-- A multiple of a point, by repeated doubling. -/
def multiple (count : Nat) (p : Point) : Point :=
  if _ : count = 0 then .zero
  else
    let half := multiple (count / 2) (p.add p)
    if count % 2 = 1 then p.add half else half
termination_by count
decreasing_by omega

/-- Whether a point is the neutral one. -/
def isZero (p : Point) : Bool := p.x == 0 && p.y == p.z

/-- Whether eight times a point is neutral. -/
def isSmallOrder (p : Point) : Bool := (multiple 8 p).isZero

def compress (p : Point) : Bytes :=
  let inverse := p.z.invert
  let x := p.x * inverse
  let y := p.y * inverse
  bytesOfNat 32 (y.val + if x.isNegative then Nat.pow 2 255 else 0)

/-- The point with a written form, if there is one. The number for y may exceed the
prime, and zero may carry a sign. -/
def decompress? (bytes : Bytes) : Option Point :=
  let y := Field.ofBytes bytes
  let square := y * y
  (Field.ratioRoot? (square - 1) (coefficient * square + 1)).map fun x =>
    ofAffine (if Nat.pow 2 255 ≤ littleEndian bytes then -x else x) y

/-- The base point: y is four fifths and x is not negative. -/
def base : Point :=
  let y := (4 : Field) * (5 : Field).invert
  let square := y * y
  ofAffine ((Field.ratioRoot? (square - 1) (coefficient * square + 1)).getD 0) y

/-- How many multiples the base point has. -/
def order : Nat := Nat.pow 2 252 + 27742317777372353535851937790883648493

end Point

end Resharing.Ed25519
