import Resharing.Bytes
import Resharing.Text.Decimal

/-!
# Bytes in base sixty-four

The standard alphabet with padding. Reading accepts exactly the written forms:
padding must be complete and the unused bits of the last symbol must be zero.

## Main definitions

* `Base64.encode`, `Base64.decode`: writing and reading
* `Base64.Fault`: why a text is not a written form
-/

namespace Resharing.Base64

/-- The symbol of a number below sixty-four. -/
def symbol (value : UInt8) : UInt8 :=
  if value < 26 then 'A'.toUInt8 + value
  else if value < 52 then 'a'.toUInt8 + (value - 26)
  else if value < 62 then '0'.toUInt8 + (value - 52)
  else if value = 62 then '+'.toUInt8
  else '/'.toUInt8

def value? (symbol : UInt8) : Option UInt8 :=
  if 'A'.toUInt8 ≤ symbol ∧ symbol ≤ 'Z'.toUInt8 then some (symbol - 'A'.toUInt8)
  else if 'a'.toUInt8 ≤ symbol ∧ symbol ≤ 'z'.toUInt8 then some (symbol - 'a'.toUInt8 + 26)
  else if '0'.toUInt8 ≤ symbol ∧ symbol ≤ '9'.toUInt8 then some (symbol - '0'.toUInt8 + 52)
  else if symbol = '+'.toUInt8 then some 62
  else if symbol = '/'.toUInt8 then some 63
  else none

/-- The sign that fills the last group of four. -/
def pad : UInt8 := '='.toUInt8

/-- The symbols of some bytes, padded to groups of four. -/
def symbols : Bytes → Bytes
  | [] => []
  | [a] => [symbol (a >>> 2), symbol ((a &&& 0x3) <<< 4), pad, pad]
  | [a, b] =>
    [symbol (a >>> 2), symbol ((a &&& 0x3) <<< 4 ||| b >>> 4), symbol ((b &&& 0xF) <<< 2), pad]
  | a :: b :: c :: rest =>
    symbol (a >>> 2) :: symbol ((a &&& 0x3) <<< 4 ||| b >>> 4) ::
      symbol ((b &&& 0xF) <<< 2 ||| c >>> 6) :: symbol (c &&& 0x3F) :: symbols rest

/-- The symbols of some bytes as a text. -/
def encode (bytes : Bytes) : String :=
  String.ofList ((symbols bytes).map fun byte => Char.ofNat byte.toNat)

/-- Why a text is not a written form. -/
inductive Fault where
  /-- The byte at a position is no symbol, or a pad sign that may not stand there. -/
  | badByte (byte : UInt8) (position : Nat)
  /-- One symbol is left over, which cannot hold a byte. -/
  | loneSymbol
  /-- The last group is not filled up to four. -/
  | badPadding
  /-- The last symbol has bits that belong to no byte. -/
  | badLastSymbol (symbol : UInt8) (position : Nat)
  deriving DecidableEq, Repr

/-- The text a fault is reported with. -/
def Fault.message : Fault → String
  | .badByte byte position =>
    "Invalid byte " ++ Decimal.text byte.toNat ++ ", offset " ++ Decimal.text position ++ "."
  | .loneSymbol => "Encoded text cannot have a 6-bit remainder."
  | .badPadding => "Invalid padding"
  | .badLastSymbol symbol position =>
    "Invalid last symbol " ++ Decimal.text symbol.toNat ++ ", offset " ++
      Decimal.text position ++ "."

/-- Reads pad signs only, after a first one at `first`. A pad sign in the first half
of a group, or anything else, is blamed on that first one. -/
def readPadding (first position count : Nat) : Bytes → Except Fault Nat
  | [] => .ok count
  | byte :: rest =>
    if byte = pad ∧ 2 ≤ position % 4 then readPadding first (position + 1) (count + 1) rest
    else .error (.badByte pad first)

/-- Splits a text into the values of its symbols and the number of pad signs after
them. -/
def readSymbols (position : Nat) : Bytes → Except Fault (Bytes × Nat)
  | [] => .ok ([], 0)
  | byte :: rest =>
    if byte = pad then
      if position % 4 < 2 then .error (.badByte pad position)
      else (readPadding position (position + 1) 1 rest).map fun count => ([], count)
    else
      match value? byte with
      | none => .error (.badByte byte position)
      | some value =>
        (readSymbols (position + 1) rest).map fun (values, count) => (value :: values, count)

/-- The bytes packed in some values of six bits; bits that fill no byte are dropped. -/
def pack : Bytes → Bytes
  | a :: b :: c :: d :: rest =>
    (a <<< 2 ||| b >>> 4) :: (b <<< 4 ||| c >>> 2) :: (c <<< 6 ||| d) :: pack rest
  | [a, b, c] => [a <<< 2 ||| b >>> 4, b <<< 4 ||| c >>> 2]
  | [a, b] => [a <<< 2 ||| b >>> 4]
  | _ => []

/-- The bits of the last value that belong to no byte. -/
def looseBits (values : Bytes) : UInt8 :=
  match values.length % 4, values.getLast? with
  | 2, some last => last &&& 0xF
  | 3, some last => last &&& 0x3
  | _, _ => 0

/-- A text whose length leaves one symbol over is blamed on its last byte if that is
neither a symbol nor a pad sign. -/
def loneSymbolFault (text : Bytes) : Fault :=
  match text.getLast? with
  | some last =>
    if last ≠ pad ∧ value? last = none then .badByte last (text.length - 1) else .loneSymbol
  | none => .loneSymbol

/-- The bytes written by a text in bytes. -/
def decodeSymbols (text : Bytes) : Except Fault Bytes :=
  if text.length % 4 = 1 then .error (loneSymbolFault text)
  else do
    let (values, padding) ← readSymbols 0 text
    if (values.length + padding) % 4 ≠ 0 then .error .badPadding
    else if looseBits values ≠ 0 then
      .error (.badLastSymbol ((text[values.length - 1]?).getD 0) (values.length - 1))
    else .ok (pack values)

def decode (text : String) : Except Fault Bytes := decodeSymbols (Bytes.ofText text)

end Resharing.Base64
