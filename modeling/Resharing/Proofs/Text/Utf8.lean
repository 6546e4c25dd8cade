import Mathlib.Tactic.SplitIfs
import Resharing.Bytes
import Resharing.Text.Utf8

/-!
# UTF-8 is read back

The form of a text is the forms of its characters, one after the other. A character beyond ASCII
is written with bytes above ASCII only, so an ASCII byte in the form of a text is a character of
the text. A reader that forgives everything has nothing to forgive here: it takes the characters
one by one, the first byte telling how many follow.

## Main results

* `Bytes.ofText_eq_flatMap`: the form of a text, character by character
* `Bytes.mem_of_ascii`: ASCII bytes are characters
* `Utf8.lossy_ofText`: reading undoes writing
-/

namespace Resharing

namespace Bytes

/-- The form of a text is made of the forms of its characters. -/
theorem ofText_eq_flatMap (text : String) :
    ofText text = text.toList.flatMap String.utf8EncodeChar := by
  conv => lhs; rw [← String.ofList_toList (s := text)]
  simp only [ofText, String.toUTF8, String.toByteArray_ofList, List.utf8Encode,
    List.data_toByteArray]

theorem ofText_append (left right : String) :
    ofText (left ++ right) = ofText left ++ ofText right := by
  simp only [ofText_eq_flatMap, String.toList_append, List.flatMap_append]

/-- Bytes that spell a text are its form. -/
theorem ofText_of_text? {bytes : Bytes} {text : String} (read : text? bytes = some text) :
    ofText text = bytes := by
  unfold text? String.fromUTF8? at read
  split_ifs at read with valid
  obtain rfl := Option.some.inj read
  rfl

/-- Where the form of a character has an ASCII byte, it is that of an ASCII character. -/
theorem eq_of_mem_encodeChar {c : Char} {byte : UInt8} (member : byte ∈ String.utf8EncodeChar c)
    (ascii : byte.toNat < 128) : c.toNat = byte.toNat := by
  unfold String.utf8EncodeChar at member
  have number : c.val.toNat = c.toNat := rfl
  generalize c.val.toNat = v at *
  dsimp only at member
  split at member
  · obtain rfl := List.mem_singleton.mp member
    simp only [UInt8.toNat_ofNat'] at ascii ⊢
    omega
  all_goals
    repeat' split at member
    all_goals
      simp only [List.mem_cons, List.not_mem_nil, or_false] at member
      rcases member with rfl | rfl | rfl | rfl <;>
        simp only [UInt8.toNat_ofNat'] at ascii <;> omega

/-- An ASCII byte in the form of a text is a character of the text. -/
theorem mem_of_ascii {text : String} {c : Char} (ascii : c.toNat < 128)
    (member : c.toUInt8 ∈ ofText text) : c ∈ text.toList := by
  rw [ofText_eq_flatMap] at member
  obtain ⟨d, inside, written⟩ := List.mem_flatMap.mp member
  have number : c.toUInt8.toNat = c.toNat := by
    simp only [Char.toUInt8, UInt32.toNat_toUInt8]
    exact Nat.mod_eq_of_lt (by omega : c.toNat < 256)
  have same := eq_of_mem_encodeChar written (by omega)
  rw [number] at same
  obtain rfl : d = c := Char.ext (UInt32.toNat_inj.mp same)
  exact inside

end Bytes

namespace Utf8

variable {rest : Bytes} {n : Nat}

theorem toNat_byte (small : n < 256) : (UInt8.ofNat n).toNat = n := by
  simp only [UInt8.toNat_ofNat', Nat.mod_eq_of_lt small]

theorem byte_lt {bound : UInt8} (small : n < 256) : UInt8.ofNat n < bound ↔ n < bound.toNat := by
  rw [UInt8.lt_iff_toNat_lt, toNat_byte small]

/-- A first byte above ASCII begins a character. -/
theorem readFrom_begun {begun : Partial} (small : n < 256) (large : 128 ≤ n)
    (begins : begin? (UInt8.ofNat n) = some begun) :
    readFrom none (UInt8.ofNat n :: rest) = readFrom (some begun) rest := by
  have above : ¬ UInt8.ofNat n < 0x80 := by
    rw [byte_lt small]
    exact Nat.not_lt.mpr large
  rw [readFrom]
  simp only [if_neg above, begins]

/-- A byte that continues a character is taken in. -/
theorem readFrom_continued {begun : Partial} (small : n < 256) (least : begun.least.toNat ≤ n)
    (greatest : n ≤ begun.greatest.toNat) :
    readFrom (some begun) (UInt8.ofNat n :: rest) =
      if begun.missing ≤ 1 then Char.ofNat (begun.bits * 64 + (n - 0x80)) :: readFrom none rest
      else readFrom (some ⟨begun.missing - 1, begun.bits * 64 + (n - 0x80), 0x80, 0xBF⟩) rest := by
  have inside : begun.least ≤ UInt8.ofNat n ∧ UInt8.ofNat n ≤ begun.greatest := by
    simp only [UInt8.le_iff_toNat_le, toNat_byte small]
    exact ⟨least, greatest⟩
  rw [readFrom]
  simp only [if_pos inside, toNat_byte small]

/-- The byte that completes a character. -/
theorem readFrom_last (number : Nat) :
    readFrom (some ⟨1, number / 64, 0x80, 0xBF⟩) (UInt8.ofNat (number % 64 + 0x80) :: rest) =
      Char.ofNat number :: readFrom none rest := by
  have whole : number / 64 * 64 + (number % 64 + 0x80 - 0x80) = number := by omega
  have small : number % 64 + 0x80 < 256 := by omega
  refine (readFrom_continued small ?_ ?_).trans ?_
  · exact Nat.le_add_left _ _
  · change number % 64 + 0x80 ≤ 0xBF
    omega
  · dsimp only
    rw [if_pos (Nat.le_refl 1), whole]

/-- A byte after which more are missing. -/
theorem readFrom_middle {missing number : Nat} {least greatest : UInt8}
    (low : least.toNat ≤ number % 64 + 0x80) (high : number % 64 + 0x80 ≤ greatest.toNat) :
    readFrom (some ⟨missing + 2, number / 64, least, greatest⟩)
        (UInt8.ofNat (number % 64 + 0x80) :: rest) =
      readFrom (some ⟨missing + 1, number, 0x80, 0xBF⟩) rest := by
  have whole : number / 64 * 64 + (number % 64 + 0x80 - 0x80) = number := by omega
  have small : number % 64 + 0x80 < 256 := by omega
  refine (readFrom_continued small low high).trans ?_
  dsimp only
  rw [if_neg (by omega), whole]
  rfl

/-- What a first byte begins, by its number. -/
theorem begin?_ofNat (small : n < 256) : begin? (UInt8.ofNat n) =
    if n < 0xC2 then none
    else if n < 0xE0 then some ⟨1, n - 0xC0, 0x80, 0xBF⟩
    else if n < 0xF0 then
      some ⟨2, n - 0xE0, if n = 0xE0 then 0xA0 else 0x80, if n = 0xED then 0x9F else 0xBF⟩
    else if n < 0xF5 then
      some ⟨3, n - 0xF0, if n = 0xF0 then 0x90 else 0x80, if n = 0xF4 then 0x8F else 0xBF⟩
    else none := by
  simp only [begin?, byte_lt small, ← UInt8.toNat_inj, toNat_byte small, UInt8.reduceToNat]

/-! ### Characters by the number of their bytes -/

theorem readFrom_two (low : 0x7F < n) (high : n ≤ 0x7FF) :
    readFrom none (UInt8.ofNat (n / 64 % 32 + 0xC0) :: UInt8.ofNat (n % 64 + 0x80) :: rest) =
      Char.ofNat n :: readFrom none rest := by
  have number : n / 64 % 32 + 0xC0 - 0xC0 = n / 64 := by omega
  have begins : begin? (UInt8.ofNat (n / 64 % 32 + 0xC0)) = some ⟨1, n / 64, 0x80, 0xBF⟩ := by
    rw [begin?_ofNat (by omega), if_neg (by omega), if_pos (by omega), number]
  rw [readFrom_begun (by omega) (by omega) begins, readFrom_last]

/-- The second byte is bounded so that no shorter form and no surrogate is taken. -/
theorem readFrom_three (low : 0x7FF < n) (high : n ≤ 0xFFFF)
    (valid : n < 0xD800 ∨ 0xDFFF < n) :
    readFrom none (UInt8.ofNat (n / 4096 % 16 + 0xE0) :: UInt8.ofNat (n / 64 % 64 + 0x80) ::
        UInt8.ofNat (n % 64 + 0x80) :: rest) = Char.ofNat n :: readFrom none rest := by
  have number : n / 4096 % 16 + 0xE0 - 0xE0 = n / 64 / 64 := by omega
  have begins : begin? (UInt8.ofNat (n / 4096 % 16 + 0xE0)) = some ⟨2, n / 64 / 64,
      if n / 4096 % 16 + 0xE0 = 0xE0 then 0xA0 else 0x80,
      if n / 4096 % 16 + 0xE0 = 0xED then 0x9F else 0xBF⟩ := by
    rw [begin?_ofNat (by omega), if_neg (by omega), if_neg (by omega), if_pos (by omega), number]
  rw [readFrom_begun (by omega) (by omega) begins, readFrom_middle, readFrom_last]
  · split_ifs <;> simp only [UInt8.reduceToNat] <;> omega
  · split_ifs <;> simp only [UInt8.reduceToNat] <;> omega

/-- The second byte is bounded so that no shorter form is taken and no number too large. -/
theorem readFrom_four (low : 0xFFFF < n) (high : n < 0x110000) :
    readFrom none (UInt8.ofNat (n / 262144 % 8 + 0xF0) :: UInt8.ofNat (n / 4096 % 64 + 0x80) ::
        UInt8.ofNat (n / 64 % 64 + 0x80) :: UInt8.ofNat (n % 64 + 0x80) :: rest) =
      Char.ofNat n :: readFrom none rest := by
  have number : n / 262144 % 8 + 0xF0 - 0xF0 = n / 64 / 64 / 64 := by omega
  have middle : n / 4096 = n / 64 / 64 := by omega
  have begins : begin? (UInt8.ofNat (n / 262144 % 8 + 0xF0)) = some ⟨3, n / 64 / 64 / 64,
      if n / 262144 % 8 + 0xF0 = 0xF0 then 0x90 else 0x80,
      if n / 262144 % 8 + 0xF0 = 0xF4 then 0x8F else 0xBF⟩ := by
    rw [begin?_ofNat (by omega), if_neg (by omega), if_neg (by omega), if_neg (by omega),
      if_pos (by omega), number]
  rw [readFrom_begun (by omega) (by omega) begins, middle, readFrom_middle, readFrom_middle,
    readFrom_last]
  · exact Nat.le_add_left _ _
  · change n / 64 % 64 + 0x80 ≤ 0xBF
    omega
  · split_ifs <;> simp only [UInt8.reduceToNat] <;> omega
  · split_ifs <;> simp only [UInt8.reduceToNat] <;> omega

/-- A character is read from its form, whatever follows. -/
theorem readFrom_encodeChar (c : Char) (rest : Bytes) :
    readFrom none (String.utf8EncodeChar c ++ rest) = c :: readFrom none rest := by
  have valid : c.toNat < 0xD800 ∨ 0xDFFF < c.toNat ∧ c.toNat < 0x110000 := c.valid
  have whole : Char.ofNat c.toNat = c := Char.ofNat_toNat c
  have number : c.val.toNat = c.toNat := rfl
  unfold String.utf8EncodeChar
  rw [number]
  generalize c.toNat = n at valid whole
  subst whole
  dsimp only
  split_ifs with one two three
  · have ascii : UInt8.ofNat n < 0x80 := (byte_lt (by omega)).mpr (Nat.lt_succ_of_le one)
    rw [List.cons_append, List.nil_append, readFrom]
    simp only [if_pos ascii, toNat_byte (by omega : n < 256)]
  · exact readFrom_two (by omega) two
  · exact readFrom_three (by omega) three (by omega)
  · exact readFrom_four (by omega) (by omega)

/-- Reading undoes writing, with nothing to forgive. -/
theorem lossy_ofText (text : String) : lossy (Bytes.ofText text) = text := by
  have read : ∀ chars : List Char, readFrom none (chars.flatMap String.utf8EncodeChar) = chars := by
    intro chars
    induction chars with
    | nil => rfl
    | cons c rest ih => rw [List.flatMap_cons, readFrom_encodeChar, ih]
  rw [lossy, Bytes.ofText_eq_flatMap, read, String.ofList_toList]

end Utf8

end Resharing
