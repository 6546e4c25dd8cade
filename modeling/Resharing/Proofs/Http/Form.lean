import Resharing.Http.Form
import Resharing.Proofs.Text.Hex
import Resharing.Proofs.Text.Utf8

/-!
# Form fields are read back

The name and the value of a field are written with letters, digits and six signs, so that nothing
in them can be taken for the end of the field, the equals sign or the end of the query. Reading
undoes the plus signs first and the escapes next, which gives the bytes that were written, and
they are UTF-8.

## Main results

* `Percent.decode_escape`: an escaped byte is read back
* `Form.isWritten_encodePart`: what names and values are written with
* `Form.decodePart_encodePart`: names and values are read back, whatever characters they have
* `Form.single?_encodeField`: a query of one field gives its value
-/

namespace Resharing

namespace Percent

variable {byte : UInt8} {rest : Bytes}

private theorem digit_of_lt :
    ∀ n < 16, Hex.value? (digit (UInt8.ofNat n)) = some (UInt8.ofNat n) := by
  decide

/-- A digit is read back. -/
theorem value?_digit (small : byte.toNat < 16) : Hex.value? (digit byte) = some byte := by
  simpa using digit_of_lt byte.toNat small

theorem decode_cons_of_ne (plain : byte ≠ sign) : decode (byte :: rest) = byte :: decode rest := by
  rw [decode.eq_def]
  simp only [if_neg plain]

/-- An escaped byte is read back. -/
theorem decode_escape (byte : UInt8) (rest : Bytes) :
    decode (escape byte ++ rest) = byte :: decode rest := by
  rw [escape, List.cons_append, List.cons_append, List.cons_append, List.nil_append, decode,
    if_pos rfl]
  simp only [value?_digit (Hex.high_lt byte), value?_digit (Hex.low_lt byte), Hex.halves]

end Percent

namespace Form

variable {byte separator : UInt8} {bytes : Bytes} {name value text : String}

/-- Whether a byte is one that names and values are written with. -/
def isWritten (byte : UInt8) : Bool :=
  passes byte || byte == '+'.toUInt8 || byte == Percent.sign

/-- The form of one byte of a name or a value. -/
def encodeByte (byte : UInt8) : Bytes :=
  if byte = ' '.toUInt8 then ['+'.toUInt8] else Percent.encode passes [byte]

theorem encodePart_eq (text : String) : encodePart text = (Bytes.ofText text).flatMap encodeByte :=
  rfl

theorem encodeByte_eq (byte : UInt8) : encodeByte byte =
    if byte = ' '.toUInt8 then ['+'.toUInt8]
    else if passes byte then [byte] else Percent.escape byte := by
  simp [encodeByte, Percent.encode]

/-- A name or a value is written with no fewer bytes than it has. -/
theorem length_le_encodePart (text : String) :
    (Bytes.ofText text).length ≤ (encodePart text).length := by
  rw [encodePart_eq]
  induction Bytes.ofText text with
  | nil => exact Nat.le_refl 0
  | cons byte rest ih =>
    have filled : 0 < (encodeByte byte).length := by
      rw [encodeByte_eq]
      split_ifs <;> exact Nat.succ_pos _
    rw [List.flatMap_cons, List.length_append, List.length_cons]
    omega

private theorem isWritten_digit_of_lt :
    ∀ n < 16, isWritten (Percent.digit (UInt8.ofNat n)) = true ∧
      Percent.digit (UInt8.ofNat n) ≠ '+'.toUInt8 := by
  decide

theorem isWritten_digit (small : byte.toNat < 16) :
    isWritten (Percent.digit byte) = true ∧ Percent.digit byte ≠ '+'.toUInt8 := by
  simpa using isWritten_digit_of_lt byte.toNat small

theorem isWritten_encodeByte (byte : UInt8) :
    ∀ other ∈ encodeByte byte, isWritten other = true := by
  intro other member
  rw [encodeByte_eq] at member
  split_ifs at member with blank passing
  · obtain rfl := List.mem_singleton.mp member
    decide
  · obtain rfl := List.mem_singleton.mp member
    simp [isWritten, passing]
  · simp only [Percent.escape, List.mem_cons, List.not_mem_nil, or_false] at member
    rcases member with rfl | rfl | rfl
    · decide
    · exact (isWritten_digit (Hex.high_lt byte)).1
    · exact (isWritten_digit (Hex.low_lt byte)).1

/-- Names and values are written with letters, digits and a few signs. -/
theorem isWritten_encodePart (text : String) :
    ∀ byte ∈ encodePart text, isWritten byte = true := by
  intro byte member
  obtain ⟨source, -, written⟩ := List.mem_flatMap.mp (encodePart_eq text ▸ member)
  exact isWritten_encodeByte source byte written

/-- A blank for each plus sign. -/
def unplus (byte : UInt8) : UInt8 := if byte = '+'.toUInt8 then ' '.toUInt8 else byte

theorem unplus_of_ne (other : byte ≠ '+'.toUInt8) : unplus byte = byte := if_neg other

theorem ne_of_passes (passing : passes byte = true) : byte ≠ '+'.toUInt8 ∧ byte ≠ Percent.sign := by
  constructor <;> rintro rfl <;> exact absurd passing (by decide)

/-- The form of a byte is read back as the byte. -/
theorem decode_encodeByte (byte : UInt8) (rest : Bytes) :
    Percent.decode ((encodeByte byte).map unplus ++ rest) = byte :: Percent.decode rest := by
  rw [encodeByte_eq]
  split_ifs with blank passing
  · subst blank
    exact Percent.decode_cons_of_ne (by decide)
  · obtain ⟨plain, unsigned⟩ := ne_of_passes passing
    rw [List.map_cons, unplus_of_ne plain]
    exact Percent.decode_cons_of_ne unsigned
  · -- No byte of an escape is a plus sign.
    have escaped : (Percent.escape byte).map unplus = Percent.escape byte := by
      simp only [Percent.escape, List.map_cons, List.map_nil,
        unplus_of_ne (isWritten_digit (Hex.high_lt byte)).2,
        unplus_of_ne (isWritten_digit (Hex.low_lt byte)).2,
        unplus_of_ne (by decide : Percent.sign ≠ '+'.toUInt8)]
    rw [escaped, Percent.decode_escape]

/-- Names and values are read back, whatever characters they have. -/
theorem decodePart_encodePart (text : String) : decodePart (encodePart text) = text := by
  -- Over bytes, not over characters: an escape knows nothing of UTF-8.
  have read : ∀ bytes : Bytes,
      Percent.decode ((bytes.flatMap encodeByte).map unplus) = bytes := by
    intro bytes
    induction bytes with
    | nil => rw [List.flatMap_nil, List.map_nil, Percent.decode]
    | cons byte rest ih => rw [List.flatMap_cons, List.map_append, decode_encodeByte, ih]
  change Utf8.lossy (Percent.decode ((encodePart text).map unplus)) = text
  rw [encodePart_eq, read, Utf8.lossy_ofText]

/-- Where there is no separator there is one piece. -/
theorem pieces_of_not_mem (absent : separator ∉ bytes) : pieces separator bytes = [bytes] := by
  induction bytes with
  | nil => rfl
  | cons byte rest ih =>
    rw [List.mem_cons, not_or] at absent
    rw [pieces, if_neg (Ne.symm absent.1), ih absent.2]

theorem encodePart_not_mem (unwritten : isWritten byte = false) : byte ∉ encodePart text := by
  intro member
  rw [isWritten_encodePart text byte member] at unwritten
  cases unwritten

/-- A query of one field is read as that field. -/
theorem decode_encodeField (name value : String) :
    decode (encodeField name value) = [(name, value)] := by
  have equals : '='.toUInt8 ∉ encodePart name := encodePart_not_mem (by decide)
  have together : pieces '&'.toUInt8 (encodeField name value) = [encodeField name value] := by
    apply pieces_of_not_mem
    simp only [encodeField, List.mem_append, List.mem_cons, not_or]
    exact ⟨encodePart_not_mem (by decide), by decide, encodePart_not_mem (by decide)⟩
  have parted : (encodeField name value).takeWhile (· != '='.toUInt8) = encodePart name := by
    rw [encodeField, List.takeWhile_append_of_pos, List.takeWhile_cons_of_neg, List.append_nil]
    · simp
    · intro byte member
      exact bne_iff_ne.mpr fun same => equals (same ▸ member)
  have behind : (encodeField name value).drop ((encodePart name).length + 1) =
      encodePart value := by
    rw [encodeField, ← List.drop_drop, List.drop_left]
    rfl
  have filled : encodeField name value ≠ [] := by simp [encodeField]
  rw [decode, together, List.filter_cons_of_pos (by simp [filled])]
  simp only [List.filter_nil, List.map_cons, List.map_nil, decodeField, parted, behind,
    decodePart_encodePart]

/-- A query of one field gives its value. -/
theorem single?_encodeField (name value : String) :
    single? (decode (encodeField name value)) name = some value := by
  rw [decode_encodeField]
  simp [single?]

end Form

end Resharing
