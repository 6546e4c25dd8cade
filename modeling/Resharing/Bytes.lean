/-!
# Bytes and the texts they spell

Everything that is stored, signed or sent is a finite list of bytes. A text is
turned into bytes by its UTF-8 form; going back succeeds exactly on UTF-8.

## Main definitions

* `Bytes.ofText`: the UTF-8 form of a text
* `Bytes.text?`: the text spelled by some bytes, if they are UTF-8

## Main results

* `Bytes.text?_ofText`: a text is read back from its own form
-/

namespace Resharing

abbrev Bytes := List UInt8

namespace Bytes

def ofText (text : String) : Bytes := text.toUTF8.data.toList

/-- The text whose UTF-8 form the bytes are, if there is one. -/
def text? (bytes : Bytes) : Option String := String.fromUTF8? ⟨bytes.toArray⟩

@[simp] theorem text?_ofText (text : String) : text? (ofText text) = some text := by
  have valid : (⟨text.toUTF8.data⟩ : ByteArray).IsValidUTF8 := text.isValidUTF8
  simp only [text?, ofText, Array.toArray_toList, String.fromUTF8?]
  exact dif_pos valid

/-- Different texts have different forms. -/
theorem ofText_injective {left right : String} (same : ofText left = ofText right) :
    left = right := by
  simpa using congrArg text? same

end Bytes

end Resharing
