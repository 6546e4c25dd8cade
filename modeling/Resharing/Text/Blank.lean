/-!
# Blank characters and trimming

A character is blank when Unicode gives it the property White_Space. Trimming
removes the blank characters at both ends of a text and nothing else.
-/

namespace Resharing.Text

/-- The characters with the Unicode property White_Space. -/
def isBlank (c : Char) : Bool :=
  let code := c.toNat
  (0x9 ≤ code && code ≤ 0xD) || code == 0x20 || code == 0x85 || code == 0xA0 ||
    code == 0x1680 || (0x2000 ≤ code && code ≤ 0x200A) || code == 0x2028 ||
    code == 0x2029 || code == 0x202F || code == 0x205F || code == 0x3000

/-- The characters from the first that is not blank on. -/
def trimStart (text : List Char) : List Char := text.dropWhile isBlank

/-- The characters up to the last that is not blank. -/
def trimEnd (text : List Char) : List Char := (text.reverse.dropWhile isBlank).reverse

/-- A list of characters without the blank ones at its ends. -/
def trimChars (text : List Char) : List Char := trimEnd (trimStart text)

/-- A text without the blank characters at its ends. -/
def trim (text : String) : String := String.ofList (trimChars text.toList)

end Resharing.Text
