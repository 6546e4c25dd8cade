/-!
# The range of double precision

A number with a point, an exponent or too many digits is held in double precision while it is
read: its leading digits are rounded to 53 bits, so is the power of ten that scales them, and
their product has to be finite.

## Main definitions

* `Double.round`: a whole number in 53 bits
* `Double.limit`: the least number that is not finite
* `Double.exceeds`: whether digits and a power of ten have no finite product
-/

namespace Resharing.Json.Double

def precision : Nat := 53

/-- The quotient nearest to a fraction; of two, the even one. -/
def divideToNearest (n unit : Nat) : Nat :=
  let quotient := n / unit
  let rest := 2 * (n % unit)
  if unit < rest || (rest = unit && quotient % 2 = 1) then quotient + 1 else quotient

/-- The whole number nearest to the given one that needs no more bits than are kept. -/
def round (n : Nat) : Nat :=
  let unit := Nat.pow 2 (n.log2 + 1 - precision)
  divideToNearest n unit * unit

/-- The least number that rounds to no finite one. -/
def limit : Nat := Nat.pow 2 1024 - Nat.pow 2 970

/-- The largest power of ten that is finite. -/
def maxExponent : Nat := 308

/-- Whether digits times ten to the exponent are not finite. Dividing by a power of ten
always leaves a finite number. -/
def exceeds (digits : Nat) : Int → Bool
  | .ofNat exponent =>
    if exponent ≤ maxExponent then limit ≤ round digits * round (Nat.pow 10 exponent)
    else digits ≠ 0
  | .negSucc _ => false

end Resharing.Json.Double
