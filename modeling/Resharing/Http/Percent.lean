import Resharing.Text.Hex

/-!
# Percent encoding

A byte may be written as a percent sign and two digits of base sixteen. Reading takes
every complete pair of digits after a percent sign and leaves everything else as it is.

## Main definitions

* `Percent.encode`, `Percent.decode`
-/

namespace Resharing.Percent

/-- The sign that starts an escape. -/
def sign : UInt8 := '%'.toUInt8

/-- The upper-case digit of a number below sixteen. -/
def digit (value : UInt8) : UInt8 :=
  if value < 10 then '0'.toUInt8 + value else 'A'.toUInt8 + (value - 10)

def escape (byte : UInt8) : Bytes := [sign, digit (byte >>> 4), digit (byte &&& 0xF)]

/-- Bytes in which those that do not pass a test are escaped. -/
def encode (passes : UInt8 → Bool) (bytes : Bytes) : Bytes :=
  bytes.flatMap fun (byte : UInt8) => if passes byte then [byte] else escape byte

def decode : Bytes → Bytes
  | [] => []
  | byte :: rest =>
    if byte = sign then
      match rest with
      | high :: low :: rest =>
        match Hex.value? high, Hex.value? low with
        | some high, some low => (high <<< 4 ||| low) :: decode rest
        | _, _ => byte :: decode (high :: low :: rest)
      | rest => byte :: decode rest
    else byte :: decode rest
termination_by bytes => bytes.length

end Resharing.Percent
