import Resharing.Bytes
import Resharing.Text.Quoted
import Resharing.Text.Decimal

/-!
# Bytes in base sixteen

Two digits a byte, the high half first. Writing uses lower case; reading takes
either case, refuses an odd number of digits before anything else, and otherwise
names the first byte that is no digit.

## Main definitions

* `Hex.encode`, `Hex.decode`: writing and reading
* `Hex.Fault`: why a text is not such a form
-/

namespace Resharing.Hex

/-- The lower-case digit of a number below sixteen. -/
def digit (value : UInt8) : UInt8 :=
  if value < 10 then '0'.toUInt8 + value else 'a'.toUInt8 + (value - 10)

/-- The value of a digit of either case. -/
def value? (digit : UInt8) : Option UInt8 :=
  if '0'.toUInt8 ≤ digit ∧ digit ≤ '9'.toUInt8 then some (digit - '0'.toUInt8)
  else if 'a'.toUInt8 ≤ digit ∧ digit ≤ 'f'.toUInt8 then some (digit - 'a'.toUInt8 + 10)
  else if 'A'.toUInt8 ≤ digit ∧ digit ≤ 'F'.toUInt8 then some (digit - 'A'.toUInt8 + 10)
  else none

def digits (bytes : Bytes) : Bytes :=
  bytes.flatMap fun (byte : UInt8) => [digit (byte >>> 4), digit (byte &&& 0xF)]

/-- The digits of some bytes as a text. -/
def encode (bytes : Bytes) : String :=
  String.ofList ((digits bytes).map fun byte => Char.ofNat byte.toNat)

/-- Why a text is not bytes in base sixteen. -/
inductive Fault where
  /-- The text has an odd number of bytes. -/
  | oddLength
  /-- The byte at a position is no digit. -/
  | badDigit (byte : UInt8) (position : Nat)
  deriving DecidableEq, Repr

/-- The text a fault is reported with; the byte is shown as the character it numbers. -/
def Fault.message : Fault → String
  | .oddLength => "Odd number of digits"
  | .badDigit byte position =>
    "Invalid character " ++ Text.Quoted.char (Char.ofNat byte.toNat) ++ " at position " ++
      Decimal.text position

/-- Reads pairs of digits, the first of which stands at `position`. -/
def decodePairs (position : Nat) : Bytes → Except Fault Bytes
  | high :: low :: rest =>
    match value? high, value? low with
    | none, _ => .error (.badDigit high position)
    | some _, none => .error (.badDigit low (position + 1))
    | some h, some l => (decodePairs (position + 2) rest).map ((h <<< 4 ||| l) :: ·)
  | _ => .ok []

/-- The bytes written by some digits. -/
def decodeDigits (digits : Bytes) : Except Fault Bytes :=
  if digits.length % 2 = 1 then .error .oddLength else decodePairs 0 digits

def decode (text : String) : Except Fault Bytes := decodeDigits (Bytes.ofText text)

end Resharing.Hex
