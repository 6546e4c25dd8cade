import Resharing.Bytes
import Resharing.Text.Hex
import Resharing.Text.Decimal

/-!
# JSON values and how they are written

A value is a tree; `compact` writes it without blanks and `pretty` on indented
lines. Members keep the order they are given in. Inside a text only quotes,
backslashes and control characters are escaped.

## Main definitions

* `Json.Value`: the values that are written
* `Json.Value.compact`, `Json.Value.pretty`: the two written forms
-/

namespace Resharing.Json

/-- A JSON value with natural numbers. -/
inductive Value where
  | null
  | bool (value : Bool)
  | number (value : Nat)
  | text (value : String)
  | list (items : List Value)
  | record (members : List (String × Value))

/-- The byte of an ASCII character. -/
abbrev ascii (c : Char) : UInt8 := c.toUInt8

def quote : UInt8 := ascii '"'

/-- The sign that starts an escape. -/
def backslash : UInt8 := ascii '\\'

/-- How a byte is written inside a text. -/
def escape (byte : UInt8) : Bytes :=
  if byte = quote then [backslash, quote]
  else if byte = backslash then [backslash, backslash]
  else if byte = 0x08 then [backslash, ascii 'b']
  else if byte = 0x09 then [backslash, ascii 't']
  else if byte = 0x0A then [backslash, ascii 'n']
  else if byte = 0x0C then [backslash, ascii 'f']
  else if byte = 0x0D then [backslash, ascii 'r']
  else if byte < 0x20 then
    [backslash, ascii 'u', ascii '0', ascii '0', Hex.digit (byte >>> 4), Hex.digit (byte &&& 0xF)]
  else [byte]

def quoted (text : String) : Bytes := quote :: ((Bytes.ofText text).flatMap escape ++ [quote])

/-- The digits of a number as bytes. -/
def numeral (n : Nat) : Bytes := (Decimal.digits n).map ascii

namespace Value

mutual

def compact : Value → Bytes
  | .null => [ascii 'n', ascii 'u', ascii 'l', ascii 'l']
  | .bool true => [ascii 't', ascii 'r', ascii 'u', ascii 'e']
  | .bool false => [ascii 'f', ascii 'a', ascii 'l', ascii 's', ascii 'e']
  | .number n => numeral n
  | .text s => quoted s
  | .list items => ascii '[' :: (compactItems items ++ [ascii ']'])
  | .record members => ascii '\x7b' :: (compactMembers members ++ [ascii '\x7d'])

def compactItems : List Value → Bytes
  | [] => []
  | [item] => item.compact
  | item :: rest => item.compact ++ ascii ',' :: compactItems rest

def compactMembers : List (String × Value) → Bytes
  | [] => []
  | [(name, value)] => quoted name ++ ascii ':' :: value.compact
  | (name, value) :: rest =>
    quoted name ++ ascii ':' :: (value.compact ++ ascii ',' :: compactMembers rest)

end

/-- A new line, indented by two blanks a level. -/
def newLine (depth : Nat) : Bytes := 0x0A :: List.replicate (2 * depth) 0x20

mutual

/-- A value on indented lines, as part of one at the given depth. -/
def prettyAt (depth : Nat) : Value → Bytes
  | .list [] => [ascii '[', ascii ']']
  | .list (item :: rest) =>
    ascii '[' :: (prettyItems (depth + 1) (item :: rest) ++ newLine depth ++ [ascii ']'])
  | .record [] => [ascii '\x7b', ascii '\x7d']
  | .record (member :: rest) =>
    ascii '\x7b' :: (prettyMembers (depth + 1) (member :: rest) ++ newLine depth ++ [ascii '\x7d'])
  | .null => compact .null
  | .bool b => compact (.bool b)
  | .number n => compact (.number n)
  | .text s => compact (.text s)

/-- Items, each on a line of its own. -/
def prettyItems (depth : Nat) : List Value → Bytes
  | [] => []
  | [item] => newLine depth ++ item.prettyAt depth
  | item :: rest => newLine depth ++ item.prettyAt depth ++ ascii ',' :: prettyItems depth rest

/-- Members, each on a line of its own. -/
def prettyMembers (depth : Nat) : List (String × Value) → Bytes
  | [] => []
  | [(name, value)] => newLine depth ++ quoted name ++ [ascii ':', 0x20] ++ value.prettyAt depth
  | (name, value) :: rest =>
    newLine depth ++ quoted name ++ [ascii ':', 0x20] ++ value.prettyAt depth ++
      ascii ',' :: prettyMembers depth rest

end

def pretty (value : Value) : Bytes := value.prettyAt 0

/-- A value without blanks, as a text. -/
def compactText (value : Value) : String := (Bytes.text? value.compact).getD ""

/-- A value on indented lines, as a text. -/
def prettyText (value : Value) : String := (Bytes.text? value.pretty).getD ""

end Value

end Resharing.Json
