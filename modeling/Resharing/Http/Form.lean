import Resharing.Http.Percent
import Resharing.Text.Utf8

/-!
# Form fields in a query

A query is a list of fields `name=value` joined by `&`. Blanks are plus signs, and all
bytes but letters, digits and four signs are escaped.

## Main definitions

* `Form.encodeField`, `Form.decode`: fields and their written form
* `Form.single?`: the one value of a field
-/

namespace Resharing.Form

/-- Bytes in pieces between the bytes equal to a separator. -/
def pieces (separator : UInt8) : Bytes → List Bytes
  | [] => [[]]
  | byte :: rest =>
    if byte = separator then [] :: pieces separator rest
    else
      match pieces separator rest with
      | piece :: later => (byte :: piece) :: later
      | [] => [[byte]]

/-- Whether a byte is an ASCII letter or digit. -/
def isAlphanumeric (byte : UInt8) : Bool :=
  ('a'.toUInt8 ≤ byte && byte ≤ 'z'.toUInt8) || ('A'.toUInt8 ≤ byte && byte ≤ 'Z'.toUInt8) ||
    ('0'.toUInt8 ≤ byte && byte ≤ '9'.toUInt8)

/-- Whether a byte stands for itself. -/
def passes (byte : UInt8) : Bool :=
  isAlphanumeric byte || byte == '*'.toUInt8 || byte == '-'.toUInt8 || byte == '.'.toUInt8 ||
    byte == '_'.toUInt8

def encodePart (text : String) : Bytes :=
  (Bytes.ofText text).flatMap fun (byte : UInt8) =>
    if byte = ' '.toUInt8 then ['+'.toUInt8] else Percent.encode passes [byte]

def encodeField (name value : String) : Bytes :=
  encodePart name ++ '='.toUInt8 :: encodePart value

def decodePart (bytes : Bytes) : String :=
  Utf8.lossy (Percent.decode
    (bytes.map fun byte => if byte = '+'.toUInt8 then ' '.toUInt8 else byte))

/-- The name and value of a field; what has no equals sign has no value. -/
def decodeField (field : Bytes) : String × String :=
  let name := field.takeWhile (· != '='.toUInt8)
  (decodePart name, decodePart (field.drop (name.length + 1)))

def decode (query : Bytes) : List (String × String) :=
  ((pieces '&'.toUInt8 query).filter (· != [])).map decodeField

/-- The value of a field that is given exactly once. -/
def single? (fields : List (String × String)) (name : String) : Option String :=
  match fields.filter fun field => field.1 = name with
  | [(_, value)] => some value
  | _ => none

end Resharing.Form
