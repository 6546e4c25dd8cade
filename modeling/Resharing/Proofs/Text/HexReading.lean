import Mathlib.Order.Bounds.Basic
import Resharing.Proofs.Text.Blank
import Resharing.Proofs.Text.Hex

/-!
# What is read in base sixteen

A text is read exactly if it is written in whole bytes: it has an even number of bytes, and each
of them is a digit, in either case. What was read is written back as the text in lower case, so two
texts are read as the same bytes only if they differ in nothing but case. Every other text is
refused for an odd number of bytes or, if it is even, for the first byte that is no digit. Bytes
are counted here and not characters: a character that takes several bytes is several foreign
bytes, and each of them counts in the length and in the position.

Identifiers, seeds and keys are read in base sixteen and then made of the bytes, if there are as
many as there have to be. That is one reader for all of them, and it is told once which texts it
takes, as what, and what it says of the others.

## Main definitions

* `Hex.Written`: whole bytes in base sixteen
* `Hex.Blamed`: what is wrong with a text
* `Hex.readAs`: a value that is made of the bytes
* `Hex.ReadsAs`: which texts are read as a value, as which, and what is said of the others

## Main results

* `Hex.decode_eq_ok_iff`, `Hex.decode_eq_error_iff`: what is read, and why the rest is not
* `Hex.Makes.readsAs`: the same of a value that is made of the bytes
-/

namespace Resharing.Hex

variable {bytes signs : Bytes} {sign : UInt8} {position : Nat} {text : String} {fault : Fault}

/-! ### Digits -/

/-- A byte is a digit of base sixteen, in either case. -/
def IsDigit (sign : UInt8) : Prop := sign ∈ Bytes.ofText "0123456789abcdefABCDEF"

instance (sign : UInt8) : Decidable (IsDigit sign) := inferInstanceAs (Decidable (sign ∈ _))

private theorem isDigit_facts : ∀ code : Fin 256,
    (value? (UInt8.ofNat code.val)).isSome = true ↔ IsDigit (UInt8.ofNat code.val) := by
  decide +kernel

/-- The bytes that have a value are the digits. -/
theorem isSome_value?_iff : (value? sign).isSome = true ↔ IsDigit sign := by
  simpa using isDigit_facts ⟨sign.toNat, sign.toNat_lt⟩

theorem value?_eq_none_iff : value? sign = none ↔ ¬ IsDigit sign := by
  rw [← isSome_value?_iff, Option.not_isSome_iff_eq_none]

/-- Foreign bytes stand at these positions. -/
def Foreign (signs : Bytes) : Set Nat := {i | ∃ sign, signs[i]? = some sign ∧ ¬ IsDigit sign}

/-! ### Texts -/

/-- A text is whole bytes in base sixteen. -/
structure Written (text : String) : Prop where
  even : text.utf8ByteSize % 2 = 0
  digits : ∀ sign ∈ Bytes.ofText text, IsDigit sign

/-- What is wrong with a text. Its length comes before anything else, and then the first
byte that is no digit. -/
inductive Blamed (text : String) : Fault → Prop
  | oddLength (odd : text.utf8ByteSize % 2 = 1) : Blamed text .oddLength
  | badDigit {sign : UInt8} {position : Nat} (even : text.utf8ByteSize % 2 = 0)
      (there : (Bytes.ofText text)[position]? = some sign)
      (first : IsLeast (Foreign (Bytes.ofText text)) position) :
      Blamed text (.badDigit sign position)

/-- The first foreign byte stands behind digits only. -/
theorem isLeast_foreign_iff (there : signs[position]? = some sign) :
    IsLeast (Foreign signs) position ↔
      (∀ earlier ∈ signs.take position, IsDigit earlier) ∧ ¬ IsDigit sign := by
  constructor
  · rintro ⟨⟨found, here, foreign⟩, first⟩
    obtain rfl : found = sign := Option.some.inj (here.symm.trans there)
    refine ⟨fun earlier member => ?_, foreign⟩
    obtain ⟨i, before, rfl⟩ := List.mem_take_iff_getElem.mp member
    by_contra alien
    have inside := before.trans_le (Nat.min_le_right _ _)
    -- A foreign byte among them would come first.
    have later := first ⟨_, List.getElem?_eq_getElem inside, alien⟩
    omega
  · rintro ⟨digits, foreign⟩
    refine ⟨⟨sign, there, foreign⟩, fun i => ?_⟩
    rintro ⟨other, here, alien⟩
    by_contra sooner
    apply alien
    apply digits
    rw [List.mem_take_iff_getElem]
    obtain ⟨inside, rfl⟩ := List.getElem?_eq_some_iff.mp here
    exact ⟨i, lt_min (Nat.lt_of_not_le sooner) inside, rfl⟩

theorem flawed_iff_blamed : Flawed (Bytes.ofText text) fault ↔ Blamed text fault := by
  constructor
  · intro flawed
    cases flawed with
    | oddLength odd => exact .oddLength (Bytes.length_ofText text ▸ odd)
    | @badDigit before after sign even split digits foreign =>
      have there : (Bytes.ofText text)[before.length]? = some sign := by
        rw [split, List.getElem?_append_right le_rfl, Nat.sub_self, List.getElem?_cons_zero]
      refine .badDigit (Bytes.length_ofText text ▸ even) there ((isLeast_foreign_iff there).mpr ?_)
      rw [split, List.take_left]
      exact ⟨fun earlier member => isSome_value?_iff.mp (digits earlier member),
        value?_eq_none_iff.mp foreign⟩
  · intro blamed
    cases blamed with
    | oddLength odd => exact .oddLength ((Bytes.length_ofText text).symm ▸ odd)
    | @badDigit sign position even there first =>
      obtain ⟨digits, foreign⟩ := (isLeast_foreign_iff there).mp first
      obtain ⟨inside, rfl⟩ := List.getElem?_eq_some_iff.mp there
      have split := (List.take_append_drop position (Bytes.ofText text)).symm
      rw [← List.getElem_cons_drop inside] at split
      have flawed := Flawed.badDigit ((Bytes.length_ofText text).symm ▸ even) split
        (fun earlier member => isSome_value?_iff.mpr (digits earlier member))
        (value?_eq_none_iff.mpr foreign)
      rwa [List.length_take_of_le inside.le] at flawed

theorem written_or_blamed (text : String) : Written text ∨ ∃ fault, Blamed text fault := by
  rcases flawed_or_digits (Bytes.ofText text) with ⟨even, digits⟩ | ⟨fault, flawed⟩
  · rw [Bytes.length_ofText] at even
    exact .inl ⟨even, fun sign member => isSome_value?_iff.mp (digits sign member)⟩
  · exact .inr ⟨fault, flawed_iff_blamed.mp flawed⟩

theorem Blamed.decode_eq (blamed : Blamed text fault) : decode text = .error fault :=
  (flawed_iff_blamed.mpr blamed).decodeDigits_eq

theorem Written.exists_decode (written : Written text) : ∃ bytes, decode text = .ok bytes := by
  apply exists_decodeDigits
  · rw [Bytes.length_ofText]
    exact written.even
  · exact fun sign member => isSome_value?_iff.mpr (written.digits sign member)

theorem Written.not_blamed (written : Written text) : ¬ Blamed text fault := by
  intro blamed
  obtain ⟨bytes, read⟩ := written.exists_decode
  exact nomatch read.symm.trans blamed.decode_eq

/-- Only one thing is wrong with a text. -/
theorem Blamed.unique {other : Fault} (blamed : Blamed text fault) (also : Blamed text other) :
    fault = other :=
  Except.error.inj (blamed.decode_eq.symm.trans also.decode_eq)

/-- Whole bytes are read, as those that are written as the text in lower case. -/
theorem decode_eq_ok_iff :
    decode text = .ok bytes ↔ Written text ∧ encode bytes = text.toLower := by
  constructor
  · intro read
    rcases written_or_blamed text with written | ⟨fault, blamed⟩
    · exact ⟨written, encode_of_decode read⟩
    · exact nomatch read.symm.trans blamed.decode_eq
  · rintro ⟨written, lower⟩
    obtain ⟨other, read⟩ := written.exists_decode
    obtain rfl : other = bytes := encode_injective ((encode_of_decode read).trans lower.symm)
    exact read

theorem decode_eq_error_iff : decode text = .error fault ↔ Blamed text fault := by
  constructor
  · intro refused
    rcases written_or_blamed text with written | ⟨other, blamed⟩
    · obtain ⟨bytes, read⟩ := written.exists_decode
      exact nomatch refused.symm.trans read
    · obtain rfl := Except.error.inj (blamed.decode_eq.symm.trans refused)
      exact blamed
  · exact Blamed.decode_eq

/-- A letter with an accent takes two bytes, and the first of them is blamed. -/
example : decode "aé0" = .error (.badDigit 0xC3 1) := by
  cbv

theorem exists_decode_iff : (∃ bytes, decode text = .ok bytes) ↔ Written text :=
  ⟨fun ⟨_, read⟩ => (decode_eq_ok_iff.mp read).1, Written.exists_decode⟩

/-- Two digits are read as a byte. -/
theorem utf8ByteSize_of_decode (read : decode text = .ok bytes) :
    text.utf8ByteSize = 2 * bytes.length := by
  have even := (decode_eq_ok_iff.mp read).1.even
  unfold decode decodeDigits at read
  rw [Bytes.length_ofText, if_neg (by omega)] at read
  rw [← Bytes.length_ofText] at even
  have lower := (digits_of_decodePairs even read).2
  have lengths := congrArg List.length lower
  rw [List.length_map, List.length_map, length_digits, Bytes.length_ofText] at lengths
  exact lengths.symm

/-- Digits are not blank, so nothing is trimmed from what was written. -/
theorem trim_encode (bytes : Bytes) : Text.trim (encode bytes) = encode bytes := by
  apply Text.trim_eq_self
  intro c member
  obtain ⟨half, small, rfl⟩ := exists_half_of_mem_encode member
  have solid : ∀ n < 16, Text.isBlank (Char.ofNat (digit (.ofNat n)).toNat) = false := by decide
  simpa using solid half.toNat small

/-! ### Values that are made of bytes -/

variable {α ε : Type} {make? : Bytes → Option α} {bytesOf : α → Bytes} {fits : Nat → Prop}
  {notWritten : Fault → ε} {unfit : ε}

/-- A value is made of its own bytes, which tell it, and one is made of some bytes exactly if their
digits are as many as fit. -/
structure Makes (make? : Bytes → Option α) (bytesOf : α → Bytes) (fits : Nat → Prop) : Prop where
  injective : Function.Injective bytesOf
  eq_of_some : ∀ {bytes value}, make? bytes = some value → bytesOf value = bytes
  exists_iff : ∀ bytes, (∃ value, make? bytes = some value) ↔ fits (2 * bytes.length)

/-- Reads a text as a value that is made of the bytes. -/
def readAs (make? : Bytes → Option α) (notWritten : Fault → ε) (unfit : ε) (text : String) :
    Except ε α :=
  match decode text with
  | .error fault => .error (notWritten fault)
  | .ok bytes =>
    match make? bytes with
    | some value => .ok value
    | none => .error unfit

/-- A result tells what a text is as a value: the one that is written as the text in lower case, if
the text is whole bytes and as long as fits, and otherwise what is wrong with it, first its digits
and then its length. -/
structure ReadsAs (result : Except ε α) (write : α → String) (text : String)
    (fits : Nat → Prop) (notWritten : Fault → ε) (unfit : ε) : Prop where
  eq_ok_iff : ∀ value, result = .ok value ↔
    Written text ∧ fits text.utf8ByteSize ∧ write value = text.toLower
  exists_ok_iff : (∃ value, result = .ok value) ↔ Written text ∧ fits text.utf8ByteSize
  eq_error_iff : ∀ error, result = .error error ↔
    (∃ fault, Blamed text fault ∧ notWritten fault = error) ∨
      Written text ∧ ¬ fits text.utf8ByteSize ∧ unfit = error

namespace ReadsAs

variable {write : α → String} {value : α}

theorem of_blamed (blamed : Blamed text fault) :
    ReadsAs (.error (notWritten fault)) write text fits notWritten unfit where
  eq_ok_iff value := ⟨nofun, fun ⟨written, _⟩ => absurd blamed written.not_blamed⟩
  exists_ok_iff := ⟨nofun, fun ⟨written, _⟩ => absurd blamed written.not_blamed⟩
  eq_error_iff error := by
    constructor
    · intro same
      exact .inl ⟨fault, blamed, Except.error.inj same⟩
    · rintro (⟨other, also, rfl⟩ | ⟨written, -⟩)
      · rw [blamed.unique also]
      · exact absurd blamed written.not_blamed

theorem of_unfit (written : Written text) (misfit : ¬ fits text.utf8ByteSize) :
    ReadsAs (.error unfit) write text fits notWritten unfit where
  eq_ok_iff value := ⟨nofun, fun ⟨_, fit, _⟩ => absurd fit misfit⟩
  exists_ok_iff := ⟨nofun, fun ⟨_, fit⟩ => absurd fit misfit⟩
  eq_error_iff error := by
    constructor
    · intro same
      exact .inr ⟨written, misfit, Except.error.inj same⟩
    · rintro (⟨fault, blamed, -⟩ | ⟨-, -, rfl⟩)
      · exact absurd blamed written.not_blamed
      · rfl

theorem of_value (written : Written text) (fit : fits text.utf8ByteSize)
    (lower : write value = text.toLower) (injective : Function.Injective write) :
    ReadsAs (.ok value) write text fits notWritten unfit where
  eq_ok_iff other := by
    constructor
    · intro same
      exact ⟨written, fit, Except.ok.inj same ▸ lower⟩
    · rintro ⟨-, -, also⟩
      rw [injective (lower.trans also.symm)]
  exists_ok_iff := ⟨fun _ => ⟨written, fit⟩, fun _ => ⟨value, rfl⟩⟩
  eq_error_iff error := by
    constructor
    · exact nofun
    · rintro (⟨fault, blamed, -⟩ | ⟨-, misfit, -⟩)
      · exact absurd blamed written.not_blamed
      · exact absurd fit misfit

end ReadsAs

namespace Makes

/-- Values that are made of just so many bytes. -/
theorem of_length {count : Nat} {make : (bytes : Bytes) → bytes.length = count → α}
    (injective : Function.Injective bytesOf)
    (bytesOf_make : ∀ bytes length, bytesOf (make bytes length) = bytes) :
    Makes (fun bytes => if length : bytes.length = count then some (make bytes length) else none)
      bytesOf (· = 2 * count) where
  injective := injective
  eq_of_some {bytes value} made := by
    split_ifs at made with length
    rw [← Option.some.inj made, bytesOf_make]
  exists_iff bytes := by
    rw [Nat.mul_right_inj (by decide)]
    constructor
    · rintro ⟨value, made⟩
      by_contra other
      rw [dif_neg other] at made
      cases made
    · intro length
      exact ⟨_, dif_pos length⟩

theorem encode_injective (makes : Makes make? bytesOf fits) :
    Function.Injective fun value => encode (bytesOf value) :=
  Hex.encode_injective.comp makes.injective

/-- Which texts are read as a value that is made of the bytes, as which, and what is said of the
others. -/
theorem readsAs (makes : Makes make? bytesOf fits) (text : String) :
    ReadsAs (readAs make? notWritten unfit text) (fun value => encode (bytesOf value)) text fits
      notWritten unfit := by
  rcases written_or_blamed text with written | ⟨fault, blamed⟩
  · obtain ⟨bytes, read⟩ := written.exists_decode
    have fits_iff := makes.exists_iff bytes
    rw [← utf8ByteSize_of_decode read] at fits_iff
    cases made : make? bytes with
    | none =>
      have misfit : ¬ fits text.utf8ByteSize := by
        intro fit
        obtain ⟨value, some⟩ := fits_iff.mpr fit
        exact nomatch made.symm.trans some
      simp only [readAs, read, made]
      exact .of_unfit written misfit
    | some value =>
      simp only [readAs, read, made]
      apply ReadsAs.of_value written (fits_iff.mp ⟨value, made⟩) _ makes.encode_injective
      rw [makes.eq_of_some made, encode_of_decode read]
  · rw [readAs, blamed.decode_eq]
    exact .of_blamed blamed

/-- A value whose bytes fit is read back from its written form. -/
theorem readAs_encode (makes : Makes make? bytesOf fits) {value : α}
    (fit : fits (2 * (bytesOf value).length)) :
    readAs make? notWritten unfit (encode (bytesOf value)) = .ok value := by
  obtain ⟨other, made⟩ := (makes.exists_iff _).mpr fit
  obtain rfl := makes.injective (makes.eq_of_some made)
  simp only [readAs, decode_encode, made]

end Makes

end Resharing.Hex
