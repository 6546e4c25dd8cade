import Resharing.Text.Hex

/-!
# Base sixteen is read back

An ASCII text has one byte a character, so the digits that are written are the bytes that are
read. Each pair of them puts the two halves of a byte together again.

## Main results

* `Bytes.ofText_ofList`, `Bytes.ofText_ofList_map`: the form of an ASCII text
* `Hex.decode_encode`, `Hex.encode_injective`: bytes in base sixteen are read back
* `Hex.encode_of_decode`: what is read is written back in lower case
* `Hex.flawed_or_digits`, `Hex.Flawed.decodeDigits_eq`, `Hex.exists_decodeDigits`: what is read
  and why the rest is not
-/

namespace Resharing

namespace Bytes

/-- An ASCII text has one byte a character. -/
theorem ofText_ofList {chars : List Char} (small : ∀ c ∈ chars, c.toNat < 128) :
    ofText (String.ofList chars) = chars.map Char.toUInt8 := by
  have forms : chars.flatMap String.utf8EncodeChar = chars.map Char.toUInt8 := by
    induction chars with
    | nil => rfl
    | cons c chars ih =>
      have single : c.utf8Size = 1 := by
        rw [Char.utf8Size_eq_one_iff]
        exact Nat.le_of_lt_succ (small c List.mem_cons_self)
      rw [List.flatMap_cons, String.utf8EncodeChar_eq_singleton single,
        ih fun later member => small later (List.mem_cons_of_mem c member)]
      rfl
  simp only [ofText, String.toUTF8, String.toByteArray_ofList, List.utf8Encode, forms,
    List.data_toByteArray]

theorem length_ofText (text : String) : (ofText text).length = text.utf8ByteSize :=
  Array.length_toList

theorem toUInt8_ofNat :
    ∀ n < 128, (Char.ofNat n).toUInt8 = UInt8.ofNat n ∧ (Char.ofNat n).toNat = n := by
  decide

/-- Bytes below 128 are the form of the text they spell. -/
theorem ofText_ofList_map {bytes : Bytes} (small : ∀ byte ∈ bytes, byte.toNat < 128) :
    ofText (String.ofList (bytes.map fun byte => Char.ofNat byte.toNat)) = bytes := by
  rw [ofText_ofList, List.map_map]
  · have same : ∀ byte ∈ bytes, (Char.ofNat byte.toNat).toUInt8 = byte := by
      intro byte member
      rw [(toUInt8_ofNat _ (small byte member)).1, UInt8.ofNat_toNat]
    exact (List.map_congr_left same).trans (List.map_id' bytes)
  · intro c spelled
    obtain ⟨byte, member, rfl⟩ := List.mem_map.mp spelled
    rw [(toUInt8_ofNat _ (small byte member)).2]
    exact small byte member

end Bytes

namespace Hex

variable {bytes : Bytes} {half : UInt8}

private theorem digit_of_lt : ∀ n < 16, let half := UInt8.ofNat n
    value? (digit half) = some half ∧ (digit half).toNat < 128 := by
  decide

/-- A digit is ASCII and read back. -/
theorem value?_digit (small : half.toNat < 16) :
    value? (digit half) = some half ∧ (digit half).toNat < 128 := by
  simpa using digit_of_lt half.toNat small

theorem high_lt (byte : UInt8) : (byte >>> 4).toNat < 16 := by
  have below := byte.toNat_lt
  rw [UInt8.toNat_shiftRight]
  simp [Nat.shiftRight_eq_div_pow]
  omega

theorem low_lt (byte : UInt8) : (byte &&& 0xF).toNat < 16 := by
  rw [UInt8.toNat_and]
  exact Nat.and_lt_two_pow _ (by decide : _ < 2 ^ 4)

/-- The halves of a byte make the byte. -/
theorem halves (byte : UInt8) : byte >>> 4 <<< 4 ||| byte &&& 0xF = byte := by
  -- Bit by bit: the low four come from the mask, the high four from the shifts.
  apply UInt8.toBitVec_inj.mp
  ext i inside
  have mask : ∀ j (inside : j < 8), (15#8)[j] = decide (j < 4) := by decide
  by_cases low : i < 4
  · simp [low, mask i inside]
  · have place : 4 + (i - 4) = i := by omega
    simp [low, mask i inside, place, BitVec.getLsbD_eq_getElem inside]

/-- What is written are digits of halves. -/
theorem exists_half_of_mem {sign : UInt8} (member : sign ∈ digits bytes) :
    ∃ half : UInt8, half.toNat < 16 ∧ digit half = sign := by
  obtain ⟨whole, -, half⟩ := List.mem_flatMap.mp member
  simp only [List.mem_cons, List.not_mem_nil, or_false] at half
  rcases half with rfl | rfl
  · exact ⟨_, high_lt whole, rfl⟩
  · exact ⟨_, low_lt whole, rfl⟩

theorem ofText_encode (bytes : Bytes) : Bytes.ofText (encode bytes) = digits bytes := by
  apply Bytes.ofText_ofList_map
  intro byte member
  obtain ⟨half, small, rfl⟩ := exists_half_of_mem member
  exact (value?_digit small).2

theorem length_digits (bytes : Bytes) : (digits bytes).length = 2 * bytes.length := by
  induction bytes with
  | nil => rfl
  | cons byte rest ih => simp only [digits, List.flatMap_cons] at ih ⊢; simp [ih]; omega

theorem decodePairs_digits (bytes : Bytes) (position : Nat) :
    decodePairs position (digits bytes) = .ok bytes := by
  induction bytes generalizing position with
  | nil => rfl
  | cons byte rest ih =>
    have split : digits (byte :: rest) =
        digit (byte >>> 4) :: digit (byte &&& 0xF) :: digits rest := rfl
    rw [split, decodePairs, (value?_digit (high_lt byte)).1, (value?_digit (low_lt byte)).1]
    simp only [ih, halves, Except.map]

/-- Bytes in base sixteen are read back. -/
theorem decode_encode (bytes : Bytes) : decode (encode bytes) = .ok bytes := by
  have even : (digits bytes).length % 2 ≠ 1 := by rw [length_digits]; omega
  rw [decode, ofText_encode, decodeDigits, if_neg even, decodePairs_digits]

theorem encode_injective : Function.Injective encode := by
  intro left right same
  have decoded := congrArg decode same
  rw [decode_encode, decode_encode] at decoded
  exact Except.ok.inj decoded

/-! ### Writing what was read -/

private theorem value?_facts : ∀ code : Fin 256, let sign := UInt8.ofNat code.val
    (value? sign).isSome = true → code.val < 128 ∧ ((value? sign).getD 0).toNat < 16 ∧
      Char.ofNat (digit ((value? sign).getD 0)).toNat = (Char.ofNat code.val).toLower := by
  decide +kernel

/-- A byte that is read as a digit is ASCII, its value is a half of a byte, and the digit written
for that value is the same letter in lower case. -/
theorem lower_of_value? {sign value : UInt8} (read : value? sign = some value) :
    sign.toNat < 128 ∧ value.toNat < 16 ∧
      Char.ofNat (digit value).toNat = (Char.ofNat sign.toNat).toLower := by
  have facts := value?_facts ⟨sign.toNat, sign.toNat_lt⟩
  simpa [read] using facts

private theorem split_halves : ∀ high low : Fin 16,
    let byte := UInt8.ofNat high.val <<< 4 ||| UInt8.ofNat low.val
    byte >>> 4 = UInt8.ofNat high.val ∧ byte &&& 0xF = UInt8.ofNat low.val := by
  decide +kernel

/-- Two halves that were put together are the halves of the byte. -/
theorem halves_of_join {high low : UInt8} (highSmall : high.toNat < 16)
    (lowSmall : low.toNat < 16) :
    (high <<< 4 ||| low) >>> 4 = high ∧ (high <<< 4 ||| low) &&& 0xF = low := by
  simpa using split_halves ⟨high.toNat, highSmall⟩ ⟨low.toNat, lowSmall⟩

/-- Pairs that were read are ASCII and are written back in lower case. -/
theorem digits_of_decodePairs {signs : Bytes} {position : Nat}
    (even : signs.length % 2 = 0) (read : decodePairs position signs = .ok bytes) :
    (∀ sign ∈ signs, sign.toNat < 128) ∧
      (digits bytes).map (fun byte => Char.ofNat byte.toNat) =
        signs.map fun sign => (Char.ofNat sign.toNat).toLower := by
  fun_induction decodePairs position signs generalizing bytes with
  | case1 => cases read
  | case2 => cases read
  | case3 position high low rest h l lowRead highRead ih =>
    obtain ⟨later, readLater, rfl⟩ : ∃ later,
        decodePairs (position + 2) rest = .ok later ∧ (h <<< 4 ||| l) :: later = bytes := by
      cases readLater : decodePairs (position + 2) rest with
      | error fault => simp [readLater, Except.map] at read
      | ok later =>
        rw [readLater] at read
        exact ⟨later, rfl, Except.ok.inj read⟩
    obtain ⟨highAscii, highSmall, highLower⟩ := lower_of_value? highRead
    obtain ⟨lowAscii, lowSmall, lowLower⟩ := lower_of_value? lowRead
    have evenLater : rest.length % 2 = 0 := by
      simp only [List.length_cons] at even
      omega
    obtain ⟨ascii, lower⟩ := ih evenLater readLater
    obtain ⟨highHalf, lowHalf⟩ := halves_of_join highSmall lowSmall
    constructor
    · intro sign member
      rcases List.mem_cons.mp member with rfl | member
      · exact highAscii
      rcases List.mem_cons.mp member with rfl | member
      · exact lowAscii
      · exact ascii sign member
    · have split : digits ((h <<< 4 ||| l) :: later) = digit h :: digit l :: digits later := by
        simp only [digits, List.flatMap_cons, highHalf, lowHalf, List.cons_append,
          List.nil_append]
      rw [split, List.map_cons, List.map_cons, lower, highLower, lowLower]
      rfl
  | case4 signs position pairless =>
    obtain rfl : signs = [] := by
      match signs, pairless, even with
      | [], _, _ => rfl
      | [_], _, odd => simp at odd
      | first :: second :: rest, pairless, _ => exact absurd rfl (pairless first second rest)
    obtain rfl : [] = bytes := Except.ok.inj read
    exact ⟨by simp, rfl⟩

/-- An ASCII text is spelled by its bytes. -/
theorem toList_eq_of_ascii {text : String} (ascii : ∀ byte ∈ Bytes.ofText text, byte.toNat < 128) :
    text.toList = (Bytes.ofText text).map fun byte => Char.ofNat byte.toNat := by
  have same := Bytes.ofText_injective (Bytes.ofText_ofList_map ascii)
  rw [← String.toList_inj, String.toList_ofList] at same
  exact same.symm

/-- What was read in base sixteen is written back in lower case. -/
theorem encode_of_decode {text : String} (read : decode text = .ok bytes) :
    encode bytes = text.toLower := by
  unfold decode decodeDigits at read
  split at read
  · cases read
  have even : (Bytes.ofText text).length % 2 = 0 := by omega
  obtain ⟨ascii, lower⟩ := digits_of_decodePairs even read
  have lowered : text.toLower.toList = text.toList.map Char.toLower := String.toList_map
  rw [← String.toList_inj, encode, lower, String.toList_ofList, lowered,
    toList_eq_of_ascii ascii, List.map_map]
  rfl

/-- Two digits a byte. -/
theorem utf8ByteSize_encode (bytes : Bytes) : (encode bytes).utf8ByteSize = 2 * bytes.length := by
  rw [← length_digits, ← ofText_encode, Bytes.length_ofText]

theorem exists_half_of_mem_encode {c : Char} (member : c ∈ (encode bytes).toList) :
    ∃ half : UInt8, half.toNat < 16 ∧ Char.ofNat (digit half).toNat = c := by
  rw [encode, String.toList_ofList] at member
  obtain ⟨sign, written, rfl⟩ := List.mem_map.mp member
  obtain ⟨half, small, rfl⟩ := exists_half_of_mem written
  exact ⟨half, small, rfl⟩

/-- A text with a dot in it is not in base sixteen. -/
theorem encode_ne_of_mem {text : String} (dot : '.' ∈ text.toList) : encode bytes ≠ text := by
  rintro rfl
  obtain ⟨half, small, spelled⟩ := exists_half_of_mem_encode dot
  have noDot : ∀ n < 16, Char.ofNat (digit (.ofNat n)).toNat ≠ '.' := by decide
  have other := noDot half.toNat small
  rw [UInt8.ofNat_toNat] at other
  exact other spelled

/-! ### What is read -/

/-- Why some signs are not read as bytes: there is an odd number of them or, if there is not,
one of them is the first that is no digit. -/
inductive Flawed (signs : Bytes) : Fault → Prop
  | oddLength (odd : signs.length % 2 = 1) : Flawed signs .oddLength
  | badDigit {before after : Bytes} {sign : UInt8} (even : signs.length % 2 = 0)
      (split : signs = before ++ sign :: after)
      (digits : ∀ earlier ∈ before, (value? earlier).isSome) (foreign : value? sign = none) :
      Flawed signs (.badDigit sign before.length)

/-- Pairs are read up to the first sign that is no digit. The recursion is on the signs before
it, two at a time. -/
theorem decodePairs_of_foreign {sign : UInt8} {after : Bytes} (foreign : value? sign = none) :
    ∀ (before : Bytes) (position : Nat), (before ++ sign :: after).length % 2 = 0 →
      (∀ earlier ∈ before, (value? earlier).isSome) →
      decodePairs position (before ++ sign :: after) =
        .error (.badDigit sign (position + before.length))
  | [], position, even, _ => by
    match after, even with
    | low :: rest, _ => simp [decodePairs, foreign]
  | [high], position, _, digits => by
    obtain ⟨value, read⟩ := Option.isSome_iff_exists.mp (digits high List.mem_cons_self)
    simp [decodePairs, foreign, read]
  | high :: low :: rest, position, even, digits => by
    obtain ⟨first, highRead⟩ := Option.isSome_iff_exists.mp (digits high (by simp))
    obtain ⟨second, lowRead⟩ := Option.isSome_iff_exists.mp (digits low (by simp))
    have evenLater : (rest ++ sign :: after).length % 2 = 0 := by
      simp only [List.cons_append, List.length_cons] at even
      omega
    have later := decodePairs_of_foreign foreign rest (position + 2) evenLater
      fun earlier member => digits earlier (by simp [member])
    have place : position + 2 + rest.length = position + (high :: low :: rest).length := by
      simp only [List.length_cons]
      omega
    rw [List.cons_append, List.cons_append, decodePairs, highRead, lowRead]
    simp only [later, place, Except.map]

theorem exists_decodePairs {signs : Bytes} (digits : ∀ sign ∈ signs, (value? sign).isSome)
    (position : Nat) : ∃ bytes, decodePairs position signs = .ok bytes := by
  fun_induction decodePairs position signs with
  | case1 position high low rest none => simp [none] at digits
  | case2 position high low rest _ none => simp [none] at digits
  | case3 position high low rest first second _ _ ih =>
    obtain ⟨bytes, read⟩ := ih fun sign member => digits sign (by simp [member])
    exact ⟨(first <<< 4 ||| second) :: bytes, by rw [read]; rfl⟩
  | case4 => exact ⟨[], rfl⟩

/-- An even number of digits is read. -/
theorem exists_decodeDigits {signs : Bytes} (even : signs.length % 2 = 0)
    (digits : ∀ sign ∈ signs, (value? sign).isSome) :
    ∃ bytes, decodeDigits signs = .ok bytes := by
  obtain ⟨bytes, read⟩ := exists_decodePairs digits 0
  exact ⟨bytes, by rw [decodeDigits, if_neg (by omega), read]⟩

/-- What is flawed is refused for that. -/
theorem Flawed.decodeDigits_eq {signs : Bytes} {fault : Fault} (flawed : Flawed signs fault) :
    decodeDigits signs = .error fault := by
  unfold decodeDigits
  cases flawed with
  | oddLength odd => rw [if_pos odd]
  | @badDigit before after sign even split digits foreign =>
    subst split
    rw [if_neg (by omega), decodePairs_of_foreign foreign before 0 even digits, Nat.zero_add]

/-- Signs make whole bytes of digits, or they are flawed. -/
theorem flawed_or_digits (signs : Bytes) :
    (signs.length % 2 = 0 ∧ ∀ sign ∈ signs, (value? sign).isSome) ∨
      ∃ fault, Flawed signs fault := by
  by_cases odd : signs.length % 2 = 1
  · exact .inr ⟨_, .oddLength odd⟩
  have even : signs.length % 2 = 0 := by omega
  cases first : signs.find? fun sign => !(value? sign).isSome with
  | none =>
    refine .inl ⟨even, fun sign member => ?_⟩
    have digit := List.find?_eq_none.mp first sign member
    simpa only [Bool.not_eq_true, Bool.not_eq_false'] using digit
  | some sign =>
    obtain ⟨foreign, before, after, split, digits⟩ := List.find?_eq_some_iff_append.mp first
    refine .inr ⟨_, .badDigit even split (fun earlier member => ?_) ?_⟩
    · simpa using digits earlier member
    · simpa using foreign

end Hex

end Resharing
