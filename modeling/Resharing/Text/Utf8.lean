import Resharing.Bytes

/-!
# Reading UTF-8 that may be broken

Bytes are read as text even where they are not UTF-8: every longest piece that could
begin a character but does not end as one becomes one replacement character.

## Main definitions

* `Utf8.Partial`: a character that is not complete
* `Utf8.lossy`: the text of some bytes
-/

namespace Resharing.Utf8

/-- The character that stands for what cannot be read. -/
def replacement : Char := '\ufffd'

/-- A character of which some bytes have been read. -/
structure Partial where
  missing : Nat
  bits : Nat
  least : UInt8
  greatest : UInt8

/-- What the first byte of a character of several bytes begins. -/
def begin? (byte : UInt8) : Option Partial :=
  if byte < 0xC2 then none
  else if byte < 0xE0 then some ⟨1, byte.toNat - 0xC0, 0x80, 0xBF⟩
  else if byte < 0xF0 then
    some ⟨2, byte.toNat - 0xE0, if byte = 0xE0 then 0xA0 else 0x80,
      if byte = 0xED then 0x9F else 0xBF⟩
  else if byte < 0xF5 then
    some ⟨3, byte.toNat - 0xF0, if byte = 0xF0 then 0x90 else 0x80,
      if byte = 0xF4 then 0x8F else 0xBF⟩
  else none

/-- Reads bytes, some character having been begun or not. -/
def readFrom (open? : Option Partial) : Bytes → List Char
  | [] => if open?.isSome then [replacement] else []
  | byte :: rest =>
    let fresh (_ : Unit) : List Char :=
      if byte < 0x80 then Char.ofNat byte.toNat :: readFrom none rest
      else
        match begin? byte with
        | some begun => readFrom (some begun) rest
        | none => replacement :: readFrom none rest
    match open? with
    | none => fresh ()
    | some begun =>
      if begun.least ≤ byte ∧ byte ≤ begun.greatest then
        let bits := begun.bits * 64 + (byte.toNat - 0x80)
        if begun.missing ≤ 1 then Char.ofNat bits :: readFrom none rest
        else readFrom (some ⟨begun.missing - 1, bits, 0x80, 0xBF⟩) rest
      -- The byte that breaks a character off may begin the next one.
      else replacement :: fresh ()

/-- The text of some bytes, whether they are UTF-8 or not. -/
def lossy (bytes : Bytes) : String := String.ofList (readFrom none bytes)

end Resharing.Utf8
