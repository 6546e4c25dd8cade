import Mathlib.Tactic.SplitIfs
import Resharing.Proofs.Json.Numerals

/-!
# Texts are read back

Whatever bytes a text has, each is written as an escape that is read as that byte. Bytes from
128 on stand for themselves, so nothing has to be known about characters of several bytes.

## Main results

* `Json.readSpelled_flatMap_escape`: escaped bytes are read back
* `Json.readTextBody_escape`, `Json.readText_quoted`: quoted texts are read back
* `Json.skipValue_quoted`: so they are passed over where nobody wants them
-/

namespace Resharing.Json

variable {byte letter meant a b c d : UInt8} {spelled rest : Bytes} {unit : Nat}

/-! ### One byte -/

theorem readSpelled_quote (spelled rest : Bytes) :
    readSpelled spelled (quote :: rest) = .ok (spelled.reverse, rest) := by
  rw [readSpelled.eq_def]
  exact if_pos rfl

theorem readSpelled_plain (inside : byte ≠ quote) (unescaped : byte ≠ backslash)
    (printed : ¬byte < 0x20) :
    readSpelled spelled (byte :: rest) = readSpelled (byte :: spelled) rest := by
  rw [readSpelled.eq_def]
  simp only [if_neg inside, if_neg unescaped, if_neg printed]

/-- The letter of a number is that of no short escape. -/
theorem ne_of_shortEscape? (short : shortEscape? letter = some meant) : letter ≠ ascii 'u' := by
  rintro rfl
  have unknown : shortEscape? (ascii 'u') = none := by decide
  exact Option.some_ne_none meant (short.symm.trans unknown)

theorem readSpelled_short (short : shortEscape? letter = some meant) :
    readSpelled spelled (backslash :: letter :: rest) = readSpelled (meant :: spelled) rest := by
  have other : letter ≠ ascii 'u' := ne_of_shortEscape? short
  have unlike : backslash ≠ quote := by decide
  rw [readSpelled.eq_def]
  simp only [if_neg unlike, if_true, if_neg other, short]

theorem readSpelled_code (code : codeUnit? a b c d = some unit) (low : isLowHalf unit = false)
    (high : isHighHalf unit = false) :
    readSpelled spelled (backslash :: ascii 'u' :: a :: b :: c :: d :: rest) =
      readSpelled (reversedForm unit ++ spelled) rest := by
  have unlike : backslash ≠ quote := by decide
  rw [readSpelled.eq_def]
  simp only [if_neg unlike, if_true, code, low, high, Bool.false_eq_true, if_false]

/-- The two digits of a control character are its number, which stands for no half. -/
private theorem control_facts : ∀ n < 32, let byte := UInt8.ofNat n
    codeUnit? (ascii '0') (ascii '0') (Hex.digit (byte >>> 4)) (Hex.digit (byte &&& 0xF)) =
      some n ∧ isLowHalf n = false ∧ isHighHalf n = false := by
  decide

theorem reversedForm_of_lt {n : Nat} (small : n < 128) : reversedForm n = [UInt8.ofNat n] := by
  obtain ⟨form, number⟩ := Bytes.toUInt8_ofNat n small
  rw [reversedForm, String.singleton_eq_ofList, Bytes.ofText_ofList, List.map_singleton, form]
  · rfl
  · intro c only
    rw [List.mem_singleton.mp only, number]
    exact small

/-- Seven bytes have short escapes, the other control characters their number, the rest none. -/
theorem escape_cases (byte : UInt8) :
    (∃ letter, shortEscape? letter = some byte ∧ escape byte = [backslash, letter]) ∨
    (byte < 0x20 ∧ escape byte =
      [backslash, ascii 'u', ascii '0', ascii '0', Hex.digit (byte >>> 4),
        Hex.digit (byte &&& 0xF)]) ∨
    (byte ≠ quote ∧ byte ≠ backslash ∧ ¬byte < 0x20) ∧ escape byte = [byte] := by
  unfold escape
  split_ifs with isQuote isBackslash isBack isTab isLine isForm isReturn control
  · subst isQuote
    exact .inl ⟨_, by decide, rfl⟩
  · subst isBackslash
    exact .inl ⟨_, by decide, rfl⟩
  · exact .inl ⟨_, isBack ▸ by decide, rfl⟩
  · exact .inl ⟨_, isTab ▸ by decide, rfl⟩
  · exact .inl ⟨_, isLine ▸ by decide, rfl⟩
  · exact .inl ⟨_, isForm ▸ by decide, rfl⟩
  · exact .inl ⟨_, isReturn ▸ by decide, rfl⟩
  · exact .inr (.inl ⟨control, rfl⟩)
  · exact .inr (.inr ⟨⟨isQuote, isBackslash, control⟩, rfl⟩)

/-- A control character is read from its number, which stands for no half. -/
theorem codeUnit?_control (control : byte < 0x20) :
    codeUnit? (ascii '0') (ascii '0') (Hex.digit (byte >>> 4)) (Hex.digit (byte &&& 0xF)) =
        some byte.toNat ∧
      isLowHalf byte.toNat = false ∧ isHighHalf byte.toNat = false := by
  have facts := control_facts byte.toNat (UInt8.lt_iff_toNat_lt.mp control)
  rwa [UInt8.ofNat_toNat] at facts

/-- A byte is read back from the way it is written inside a text. -/
theorem readSpelled_escape (byte : UInt8) (spelled rest : Bytes) :
    readSpelled spelled (escape byte ++ rest) = readSpelled (byte :: spelled) rest := by
  obtain ⟨letter, short, written⟩ | ⟨control, written⟩ | ⟨⟨inside, unescaped, printed⟩, written⟩ :=
    escape_cases byte
  · rw [written]
    exact readSpelled_short short
  · obtain ⟨code, low, high⟩ := codeUnit?_control control
    have small : byte.toNat < 32 := UInt8.lt_iff_toNat_lt.mp control
    have form : reversedForm byte.toNat = [byte] := by
      rw [reversedForm_of_lt (by omega), UInt8.ofNat_toNat]
    rw [written]
    exact (readSpelled_code code low high).trans (by rw [form]; rfl)
  · rw [written]
    exact readSpelled_plain inside unescaped printed

/-! ### Whole texts -/

theorem readSpelled_flatMap_escape (bytes spelled rest : Bytes) :
    readSpelled spelled (bytes.flatMap escape ++ quote :: rest) =
      .ok (spelled.reverse ++ bytes, rest) := by
  induction bytes generalizing spelled with
  | nil => simpa using readSpelled_quote spelled rest
  | cons byte bytes ih =>
    rw [List.flatMap_cons, List.append_assoc, readSpelled_escape, ih, List.reverse_cons,
      List.append_assoc, List.singleton_append]

/-- Behind its opening quote, a text is read back whatever its characters are. -/
theorem readTextBody_escape (text : String) (rest : Bytes) :
    readTextBody ((Bytes.ofText text).flatMap escape ++ quote :: rest) = .ok (text, rest) := by
  simp only [readTextBody, readSpelled_flatMap_escape, List.reverse_nil, List.nil_append, bind,
    Except.bind, Bytes.text?_ofText, pure, Except.pure]

theorem quoted_append (text : String) (rest : Bytes) : quoted text ++ rest =
    quote :: ((Bytes.ofText text).flatMap escape ++ quote :: rest) := by
  simp [quoted]

theorem readText_quoted (text : String) (rest : Bytes) :
    readText (quoted text ++ rest) = .ok (text, rest) := by
  rw [quoted_append, readText, skipSpace_solid (by decide)]
  exact (if_pos rfl).trans (readTextBody_escape text rest)

/-! ### Texts that are only checked -/

/-- A byte is passed over in the way it is written inside a text. -/
theorem skipTextBody_escape (byte : UInt8) (rest : Bytes) :
    skipTextBody (escape byte ++ rest) = skipTextBody rest := by
  have unlike : backslash ≠ quote := by decide
  obtain ⟨letter, short, written⟩ | ⟨control, written⟩ | ⟨⟨inside, unescaped, printed⟩, written⟩ :=
    escape_cases byte
  · have other : letter ≠ ascii 'u' := ne_of_shortEscape? short
    rw [written, skipTextBody.eq_def]
    simp [unlike, other, short]
  · obtain ⟨code, -⟩ := codeUnit?_control control
    rw [written, skipTextBody.eq_def]
    simp [unlike, code]
  · rw [written, skipTextBody.eq_def]
    simp [inside, unescaped, printed]

/-- A quoted text is passed over whatever its characters are. -/
theorem skipValue_quoted (text : String) (rest : Bytes) :
    skipValue (quoted text ++ rest) = .ok rest := by
  have body : skipTextBody ((Bytes.ofText text).flatMap escape ++ quote :: rest) = .ok rest := by
    induction Bytes.ofText text with
    | nil =>
      rw [List.flatMap_nil, List.nil_append, skipTextBody.eq_def]
      exact if_pos rfl
    | cons byte bytes ih => rw [List.flatMap_cons, List.append_assoc, skipTextBody_escape, ih]
  rw [quoted_append, skipValue, skipValueIn, skipSpace_solid (by decide)]
  exact body

end Resharing.Json
