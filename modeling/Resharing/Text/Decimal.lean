/-!
# Decimal numerals

Writing a natural number in base ten, and reading one that has to stay below a
limit. A numeral may carry one plus sign and any number of leading zeros.

## Main definitions

* `Decimal.digits`, `Decimal.text`: the numeral of a number, without leading zeros
* `Decimal.read`: the number below a limit that a numeral denotes
* `Decimal.Fault`: why a text is not such a numeral
-/

namespace Resharing.Decimal

/-- The digit character of a number below ten. -/
def digitChar (digit : Nat) : Char := Char.ofNat ('0'.toNat + digit)

/-- The digits of a number, most significant first and without leading zeros. -/
def digits (n : Nat) : List Char :=
  if n < 10 then [digitChar n] else digits (n / 10) ++ [digitChar (n % 10)]
termination_by n

def text (n : Nat) : String := String.ofList (digits n)

def digit? (c : Char) : Option Nat :=
  if '0' ≤ c ∧ c ≤ '9' then some (c.toNat - '0'.toNat) else none

/-- Why a text is not a numeral of a number below the limit. -/
inductive Fault where
  | empty
  /-- A character is no digit, or a sign stands alone. -/
  | badDigit
  /-- The digits read so far already reach the limit. -/
  | tooLarge
  deriving DecidableEq, Repr

/-- The text a fault is reported with. -/
def Fault.message : Fault → String
  | .empty => "cannot parse integer from empty string"
  | .badDigit => "invalid digit found in string"
  | .tooLarge => "number too large to fit in target type"

/-- Reads digits after some that denote `value`. The first character that is no
digit, or that brings the value to the limit, decides. -/
def readDigits (limit value : Nat) : List Char → Except Fault Nat
  | [] => .ok value
  | c :: rest =>
    match digit? c with
    | none => .error .badDigit
    | some digit =>
      let next := value * 10 + digit
      if next < limit then readDigits limit next rest else .error .tooLarge

/-- The number below `limit` that a numeral denotes. A plus sign may lead it. -/
def read (limit : Nat) : List Char → Except Fault Nat
  | [] => .error .empty
  | ['+'] => .error .badDigit
  | '+' :: rest => readDigits limit 0 rest
  | numeral => readDigits limit 0 numeral

end Resharing.Decimal
