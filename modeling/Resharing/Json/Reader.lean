import Resharing.Json.Double
import Resharing.Json.Value

/-!
# Reading JSON from bytes

Readers take a value of an expected shape from the front of some bytes and return
what follows. They work from left to right and stop at the first fault: bytes
that are no JSON are `malformed`, JSON of another shape is a `mismatch`. So the
kind of fault tells what stands first, not everything that is wrong.

## Main definitions

* `Json.Fault`, `Json.Reader`
* `Json.readNatural`, `Json.readText`, `Json.readList`: values that are kept
* `Json.skipValue`: a value that is only checked
* `Json.refuse`: the fault of a value of the wrong shape
-/

namespace Resharing.Json

/-- Why a value could not be read. -/
inductive Fault where
  | malformed
  /-- The bytes are JSON so far, but not of the expected shape. -/
  | mismatch
  deriving DecidableEq, Repr

/-- The text a fault is reported with; it does not tell the two kinds apart. -/
def Fault.message (_ : Fault) : String := "the text is not the expected JSON"

/-- Takes a value from the front of some bytes. -/
abbrev Reader (α : Type) := Bytes → Except Fault (α × Bytes)

/-- Whether a byte may stand between the parts of a value. -/
def isSpace (byte : UInt8) : Bool := byte == 0x20 || byte == 0x09 || byte == 0x0A || byte == 0x0D

/-- The bytes from the first that is no space on. -/
def skipSpace (bytes : Bytes) : Bytes := bytes.dropWhile isSpace

/-- What follows the given word, which has to come next. -/
def expectWord : Bytes → Bytes → Except Fault Bytes
  | [], bytes => .ok bytes
  | _ :: _, [] => .error .malformed
  | letter :: word, byte :: bytes =>
    if byte = letter then expectWord word bytes else .error .malformed

/-- What follows the given sign, which has to come next after spaces. -/
def expectSign (sign : Char) (bytes : Bytes) : Except Fault Bytes :=
  match skipSpace bytes with
  | [] => .error .malformed
  | byte :: rest => if byte = ascii sign then .ok rest else .error .malformed

/-! ### Numbers -/

def isDigit (byte : UInt8) : Bool := ascii '0' ≤ byte && byte ≤ ascii '9'

/-- The number that digits denote behind others that denote `value`, as long as it stays below
2^64, and how many digits are left over from there. -/
def extend (value : Nat) : Bytes → Nat × Nat
  | [] => (value, 0)
  | digit :: rest =>
    let next := value * 10 + (digit - ascii '0').toNat
    if next < UInt64.size then extend next rest else (value, rest.length + 1)

/-- What a numeral denotes. -/
inductive Number where
  /-- A numeral without sign, fraction and exponent, below 2^64. -/
  | natural (value : Nat)
  | other
  deriving DecidableEq, Repr

/-- The parts of a numeral. -/
structure Numeral where
  negative : Bool
  whole : Bytes
  /-- The digits after the point, if there is one. -/
  fraction : Option Bytes
  /-- The exponent, if there is one: whether it is negative, and its digits. -/
  exponent : Option (Bool × Bytes)
  deriving DecidableEq, Repr

/-- A sign in front of an exponent's digits. -/
def splitSign : Bytes → Bool × Bytes
  | byte :: rest =>
    if byte = ascii '-' then (true, rest)
    else if byte = ascii '+' then (false, rest)
    else (false, byte :: rest)
  | [] => (false, [])

def readDigits (bytes : Bytes) : Except Fault (Bytes × Bytes) :=
  let digits := bytes.takeWhile isDigit
  if digits = [] then .error .malformed else .ok (digits, bytes.dropWhile isDigit)

/-- Digits after a point, if a point comes next. -/
def readFraction : Bytes → Except Fault (Option Bytes × Bytes)
  | byte :: rest =>
    if byte = ascii '.' then (readDigits rest).map fun (digits, rest) => (some digits, rest)
    else .ok (none, byte :: rest)
  | [] => .ok (none, [])

/-- An exponent, if its letter comes next. -/
def readExponent : Bytes → Except Fault (Option (Bool × Bytes) × Bytes)
  | byte :: rest =>
    if byte = ascii 'e' ∨ byte = ascii 'E' then
      let (negative, rest) := splitSign rest
      (readDigits rest).map fun (digits, rest) => (some (negative, digits), rest)
    else .ok (none, byte :: rest)
  | [] => .ok (none, [])

/-- A numeral. No zero leads other digits before the point. -/
def readNumeral (bytes : Bytes) : Except Fault (Numeral × Bytes) := do
  let (negative, rest) :=
    match bytes with
    | byte :: rest => if byte = ascii '-' then (true, rest) else (false, byte :: rest)
    | [] => (false, [])
  let (whole, rest) ← readDigits rest
  if whole.head? = some (ascii '0') ∧ 1 < whole.length then .error .malformed
  else do
    let (fraction, rest) ← readFraction rest
    let (exponent, rest) ← readExponent rest
    return (⟨negative, whole, fraction, exponent⟩, rest)

namespace Numeral

/-- The digits that are kept and the power of ten they count. Left over digits scale those
before the point and are forgotten behind it. An exponent of which digits are left over is
far from every limit, so those do not matter. -/
def scaled (numeral : Numeral) : Nat × Int :=
  let (whole, spare) := extend 0 numeral.whole
  let fraction := numeral.fraction.getD []
  let (digits, forgotten) := extend whole fraction
  let places : Int := fraction.length - forgotten
  match numeral.exponent with
  | none => (digits, spare - places)
  | some (true, exponent) => (digits, spare - places - (extend 0 exponent).1)
  | some (false, exponent) => (digits, spare - places + (extend 0 exponent).1)

/-- What a numeral denotes. One too large for double precision is refused. -/
def number (numeral : Numeral) : Except Fault Number :=
  let plain := !numeral.negative && numeral.fraction.isNone && numeral.exponent.isNone
  let (whole, spare) := extend 0 numeral.whole
  if plain ∧ spare = 0 then .ok (.natural whole)
  else
    let (digits, exponent) := numeral.scaled
    if Double.exceeds digits exponent then .error .malformed else .ok .other

end Numeral

def readNumber (bytes : Bytes) : Except Fault (Number × Bytes) := do
  let (numeral, rest) ← readNumeral bytes
  return (← numeral.number, rest)

/-! ### Texts -/

/-- The value of four digits of base sixteen. -/
def codeUnit? (a b c d : UInt8) : Option Nat := do
  let a ← Hex.value? a
  let b ← Hex.value? b
  let c ← Hex.value? c
  let d ← Hex.value? d
  return ((a.toNat * 16 + b.toNat) * 16 + c.toNat) * 16 + d.toNat

/-- Whether a code unit is the first half of a pair. -/
def isHighHalf (unit : Nat) : Bool := 0xD800 ≤ unit && unit < 0xDC00

/-- Whether a code unit is the second half of a pair. -/
def isLowHalf (unit : Nat) : Bool := 0xDC00 ≤ unit && unit < 0xE000

/-- The byte meant by the letter of a short escape. -/
def shortEscape? (letter : UInt8) : Option UInt8 :=
  if letter = quote then some quote
  else if letter = backslash then some backslash
  else if letter = ascii '/' then some (ascii '/')
  else if letter = ascii 'b' then some 0x08
  else if letter = ascii 'f' then some 0x0C
  else if letter = ascii 'n' then some 0x0A
  else if letter = ascii 'r' then some 0x0D
  else if letter = ascii 't' then some 0x09
  else none

/-- The UTF-8 form of a code point, last byte first. -/
def reversedForm (codePoint : Nat) : Bytes :=
  (Bytes.ofText (String.singleton (Char.ofNat codePoint))).reverse

/-- Reads a text from behind its opening quote to behind its closing one. The bytes
it spells are gathered last first in front of `spelled`. -/
def readSpelled (spelled : Bytes) : Bytes → Except Fault (Bytes × Bytes)
  | [] => .error .malformed
  | byte :: rest =>
    if byte = quote then .ok (spelled.reverse, rest)
    else if byte = backslash then
      match rest with
      | [] => .error .malformed
      | letter :: rest =>
        if letter = ascii 'u' then
          match rest with
          | a :: b :: c :: d :: rest =>
            match codeUnit? a b c d with
            | none => .error .malformed
            | some unit =>
              -- The halves of a pair stand for a character only together and in this order.
              if isLowHalf unit then .error .malformed
              else if isHighHalf unit then
                match rest with
                | sign :: letter :: a :: b :: c :: d :: rest =>
                  match codeUnit? a b c d with
                  | none => .error .malformed
                  | some low =>
                    if sign = backslash ∧ letter = ascii 'u' ∧ isLowHalf low then
                      let point := 0x10000 + (unit - 0xD800) * 0x400 + (low - 0xDC00)
                      readSpelled (reversedForm point ++ spelled) rest
                    else .error .malformed
                | _ => .error .malformed
              else readSpelled (reversedForm unit ++ spelled) rest
          | _ => .error .malformed
        else
          match shortEscape? letter with
          | some meant => readSpelled (meant :: spelled) rest
          | none => .error .malformed
    else if byte < 0x20 then .error .malformed
    else readSpelled (byte :: spelled) rest

/-- A text that is kept, from behind its opening quote. It has to be UTF-8. -/
def readTextBody (bytes : Bytes) : Except Fault (String × Bytes) := do
  let (spelled, rest) ← readSpelled [] bytes
  match Bytes.text? spelled with
  | some text => return (text, rest)
  | none => .error .malformed

/-- Checks a text from behind its opening quote: escapes are complete, no control
character stands in it. What it spells does not matter. -/
def skipTextBody : Bytes → Except Fault Bytes
  | [] => .error .malformed
  | byte :: rest =>
    if byte = quote then .ok rest
    else if byte = backslash then
      match rest with
      | [] => .error .malformed
      | letter :: rest =>
        if letter = ascii 'u' then
          match rest with
          | a :: b :: c :: d :: rest =>
            if (codeUnit? a b c d).isSome then skipTextBody rest else .error .malformed
          | _ => .error .malformed
        else if (shortEscape? letter).isSome then skipTextBody rest
        else .error .malformed
    else if byte < 0x20 then .error .malformed
    else skipTextBody rest

/-! ### Parts of lists and records -/

/-- Where the next part of a list or record starts, or `none` when its closing sign
comes next. Parts are separated by commas, and none follows the last. -/
def nextPart (close : Char) (first : Bool) (bytes : Bytes) : Except Fault (Option Bytes) :=
  match skipSpace bytes with
  | [] => .error .malformed
  | byte :: rest =>
    -- The closing sign is left for whoever reads on.
    if byte = ascii close then .ok none
    else if first then .ok (some (byte :: rest))
    else if byte = ascii ',' then
      match skipSpace rest with
      | [] => .error .malformed
      | byte :: rest => if byte = ascii close then .error .malformed else .ok (some (byte :: rest))
    else .error .malformed

/-- What follows the opening quote of a member's name. -/
def openName : Bytes → Except Fault Bytes
  | [] => .error .malformed
  | byte :: rest => if byte = quote then .ok rest else .error .malformed

/-! ### Values that are only checked -/

mutual

/-- Checks a value of any shape and depth. -/
def skipValueIn : Nat → Bytes → Except Fault Bytes
  | 0, _ => .error .malformed
  | fuel + 1, bytes =>
    match skipSpace bytes with
    | [] => .error .malformed
    | byte :: rest =>
      if byte = ascii 'n' then expectWord [ascii 'u', ascii 'l', ascii 'l'] rest
      else if byte = ascii 't' then expectWord [ascii 'r', ascii 'u', ascii 'e'] rest
      else if byte = ascii 'f' then expectWord [ascii 'a', ascii 'l', ascii 's', ascii 'e'] rest
      else if byte = ascii '-' ∨ isDigit byte then (readNumeral (byte :: rest)).map (·.2)
      else if byte = quote then skipTextBody rest
      else if byte = ascii '[' then skipItems fuel true rest
      else if byte = ascii '\x7b' then skipMembers fuel true rest
      else .error .malformed

def skipItems : Nat → Bool → Bytes → Except Fault Bytes
  | 0, _, _ => .error .malformed
  | fuel + 1, first, bytes => do
    match ← nextPart ']' first bytes with
    | none => expectSign ']' bytes
    | some item => skipItems fuel false (← skipValueIn fuel item)

def skipMembers : Nat → Bool → Bytes → Except Fault Bytes
  | 0, _, _ => .error .malformed
  | fuel + 1, first, bytes => do
    match ← nextPart '\x7d' first bytes with
    | none => expectSign '\x7d' bytes
    | some member =>
      let rest ← skipTextBody (← openName member)
      let rest ← expectSign ':' rest
      skipMembers fuel false (← skipValueIn fuel rest)

end

/-- Checks a value of any shape and depth; the length of the bytes bounds its parts. -/
def skipValue (bytes : Bytes) : Except Fault Bytes := skipValueIn (2 * bytes.length + 2) bytes

/-! ### Values that are kept -/

/-- The fault of a value of the wrong shape: if its beginning is no JSON either, that
comes first. Lists and records are not looked into. -/
def refuse (bytes : Bytes) : Fault :=
  let faultOf {α : Type} (result : Except Fault α) : Fault :=
    match result with
    | .ok _ => .mismatch
    | .error fault => fault
  match skipSpace bytes with
  | [] => .malformed
  | byte :: rest =>
    if byte = ascii 'n' then faultOf (expectWord [ascii 'u', ascii 'l', ascii 'l'] rest)
    else if byte = ascii 't' then faultOf (expectWord [ascii 'r', ascii 'u', ascii 'e'] rest)
    else if byte = ascii 'f' then
      faultOf (expectWord [ascii 'a', ascii 'l', ascii 's', ascii 'e'] rest)
    else if byte = ascii '-' ∨ isDigit byte then faultOf (readNumber (byte :: rest))
    else if byte = quote then faultOf (readTextBody rest)
    else if byte = ascii '[' ∨ byte = ascii '\x7b' then .mismatch
    else .malformed

/-- A natural number below `limit`. -/
def readNatural (limit : Nat) : Reader Nat := fun bytes =>
  match skipSpace bytes with
  | byte :: rest =>
    if byte = ascii '-' ∨ isDigit byte then do
      let (number, rest) ← readNumber (byte :: rest)
      match number with
      | .natural value => if value < limit then return (value, rest) else .error .mismatch
      | .other => .error .mismatch
    else .error (refuse (byte :: rest))
  | [] => .error .malformed

def readBool : Reader Bool := fun bytes =>
  match skipSpace bytes with
  | byte :: rest =>
    if byte = ascii 't' then
      (expectWord [ascii 'r', ascii 'u', ascii 'e'] rest).map fun rest => (true, rest)
    else if byte = ascii 'f' then
      (expectWord [ascii 'a', ascii 'l', ascii 's', ascii 'e'] rest).map fun rest => (false, rest)
    else .error (refuse (byte :: rest))
  | [] => .error .malformed

def readText : Reader String := fun bytes =>
  match skipSpace bytes with
  | byte :: rest => if byte = quote then readTextBody rest else .error (refuse (byte :: rest))
  | [] => .error .malformed

def readItems {α : Type} (item : Reader α) : Nat → Bool → Reader (List α)
  | 0, _, _ => .error .malformed
  | fuel + 1, first, bytes => do
    match ← nextPart ']' first bytes with
    | none => return ([], ← expectSign ']' bytes)
    | some start =>
      let (value, rest) ← item start
      let (values, rest) ← readItems item fuel false rest
      return (value :: values, rest)

def readList {α : Type} (item : Reader α) : Reader (List α) := fun bytes =>
  match skipSpace bytes with
  | byte :: rest =>
    if byte = ascii '[' then readItems item (rest.length + 1) true rest
    else .error (refuse (byte :: rest))
  | [] => .error .malformed

/-- Nothing, written `null`, or a value. -/
def readOption {α : Type} (value : Reader α) : Reader (Option α) := fun bytes =>
  match skipSpace bytes with
  | byte :: rest =>
    if byte = ascii 'n' then
      (expectWord [ascii 'u', ascii 'l', ascii 'l'] rest).map fun rest => (none, rest)
    else (value (byte :: rest)).map fun (value, rest) => (some value, rest)
  | [] => (value []).map fun (value, rest) => (some value, rest)

/-- A name out of a list of choices: alone, or as the one member, with value `null`,
of a record. -/
def readChoice {α : Type} (choices : List (String × α)) : Reader α := fun bytes =>
  let chosen (name : String) : Except Fault α :=
    match choices.lookup name with
    | some choice => .ok choice
    | none => .error .mismatch
  match skipSpace bytes with
  | byte :: rest =>
    if byte = quote then do
      let (name, rest) ← readTextBody rest
      return (← chosen name, rest)
    else if byte = ascii '\x7b' then do
      let (name, rest) ← readText rest
      let choice ← chosen name
      let rest := skipSpace (← expectSign ':' rest)
      match rest with
      | byte :: tail =>
        if byte = ascii 'n' then
          let rest ← expectWord [ascii 'u', ascii 'l', ascii 'l'] tail
          return (choice, ← expectSign '\x7d' rest)
        else .error (refuse rest)
      | [] => .error .malformed
    else .error .malformed
  | [] => .error .malformed

end Resharing.Json
