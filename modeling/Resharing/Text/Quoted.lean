import Resharing.Text.Unprintable

/-!
# Quoted text

A character or a text between quotes, in a form that shows what could not be
seen: the usual escapes, and the number of every unprintable character.

## Main definitions

* `Quoted.char`: a character between single quotes
* `Quoted.text`: a text between double quotes
* `Quoted.list`: a list of quoted texts in brackets
-/

namespace Resharing.Text.Quoted

/-- A code point in lower-case base sixteen, without leading zeros. -/
def codePoint (c : Char) : List Char := Nat.toDigits 16 c.toNat

/-- How a character is written between the given quotes. -/
def escape (quote c : Char) : List Char :=
  if c = quote then ['\\', c]
  else
    match c with
    | '\x00' => ['\\', '0']
    | '\t' => ['\\', 't']
    | '\r' => ['\\', 'r']
    | '\n' => ['\\', 'n']
    | '\\' => ['\\', '\\']
    | c =>
      if isUnprintable c then ['\\', 'u', '\x7b'] ++ codePoint c ++ ['\x7d'] else [c]

/-- A character between single quotes. -/
def char (c : Char) : String := String.ofList (['\''] ++ escape '\'' c ++ ['\''])

def text (s : String) : String := String.ofList (['"'] ++ s.toList.flatMap (escape '"') ++ ['"'])

/-- Quoted texts between brackets, separated by a comma and a space. -/
def list (texts : List String) : String :=
  "[" ++ ", ".intercalate (texts.map text) ++ "]"

end Resharing.Text.Quoted
