import Resharing.Proofs.Text.Hex
import Resharing.Text.Base64

/-!
# Bytes in base sixty-four are read back

Three bytes are cut into four values of six bits, and each value has a symbol of its own. Packing
the values puts the pieces of each byte together again. At the end one or two bytes may be left
over: the last value is then filled up with bits that are not set, and the group with pad signs.

Nothing else is read. The symbols of a text that is accepted are those of its values, the pad
signs are as many as fill the group, and the bits that belong to no byte are not set. So the
values are those that the bytes are cut into.

## Main definitions

* `Base64.sextets`, `Base64.padding`: the values of the symbols, and how many signs fill the group

## Main results

* `Base64.pack_sextets`: the values make up the bytes
* `Base64.decode_encode`: bytes are read back
* `Base64.sextets_pack`: values that fill their bytes are those that the bytes are cut into
* `Base64.decode_eq_ok_iff`: what is read is a written form
-/

namespace Resharing.Base64

variable {value : UInt8}

/-- The values of six bits that bytes are cut into. -/
def sextets : Bytes → Bytes
  | [] => []
  | [a] => [a >>> 2, (a &&& 0x3) <<< 4]
  | [a, b] => [a >>> 2, (a &&& 0x3) <<< 4 ||| b >>> 4, (b &&& 0xF) <<< 2]
  | a :: b :: c :: rest =>
    (a >>> 2) :: ((a &&& 0x3) <<< 4 ||| b >>> 4) :: ((b &&& 0xF) <<< 2 ||| c >>> 6) ::
      (c &&& 0x3F) :: sextets rest

/-- How many pad signs fill the last group. -/
def padding : Bytes → Nat
  | [] => 0
  | [_] => 2
  | [_, _] => 1
  | _ :: _ :: _ :: rest => padding rest

/-! ### Symbols -/

private theorem symbol_of_lt : ∀ n < 64, let value := UInt8.ofNat n
    value? (symbol value) = some value ∧ symbol value ≠ pad ∧ (symbol value).toNat < 128 := by
  decide

/-- A symbol has a value, is no pad sign and is ASCII. -/
theorem symbol_facts (small : value.toNat < 64) :
    value? (symbol value) = some value ∧ symbol value ≠ pad ∧ (symbol value).toNat < 128 := by
  simpa using symbol_of_lt value.toNat small

/-- The pieces of a byte have few bits. -/
private theorem pieces_lt_of_lt : ∀ n < 256, let byte := UInt8.ofNat n
    (byte >>> 2).toNat < 64 ∧ ((byte &&& 0x3) <<< 4).toNat < 64 ∧ (byte >>> 4).toNat < 64 ∧
      ((byte &&& 0xF) <<< 2).toNat < 64 ∧ (byte >>> 6).toNat < 64 ∧ (byte &&& 0x3F).toNat < 64 := by
  decide +kernel

theorem pieces_lt (byte : UInt8) :
    (byte >>> 2).toNat < 64 ∧ ((byte &&& 0x3) <<< 4).toNat < 64 ∧ (byte >>> 4).toNat < 64 ∧
      ((byte &&& 0xF) <<< 2).toNat < 64 ∧ (byte >>> 6).toNat < 64 ∧ (byte &&& 0x3F).toNat < 64 := by
  simpa using pieces_lt_of_lt byte.toNat byte.toNat_lt

theorem or_lt {left right : UInt8} (small : left.toNat < 64) (smaller : right.toNat < 64) :
    (left ||| right).toNat < 64 := by
  rw [UInt8.toNat_or]
  exact Nat.or_lt_two_pow (n := 6) small smaller

theorem sextets_lt (bytes : Bytes) : ∀ value ∈ sextets bytes, value.toNat < 64 := by
  induction bytes using sextets.induct with
  | case1 => nofun
  | case2 a =>
    obtain ⟨high, low, -⟩ := pieces_lt a
    simp only [sextets, List.forall_mem_cons]
    exact ⟨high, low, nofun⟩
  | case3 a b =>
    obtain ⟨high, low, -⟩ := pieces_lt a
    obtain ⟨-, -, next, last, -⟩ := pieces_lt b
    simp only [sextets, List.forall_mem_cons]
    exact ⟨high, or_lt low next, last, nofun⟩
  | case4 a b c rest ih =>
    obtain ⟨high, low, -⟩ := pieces_lt a
    obtain ⟨-, -, next, middle, -⟩ := pieces_lt b
    obtain ⟨-, -, -, -, top, last⟩ := pieces_lt c
    simp only [sextets, List.forall_mem_cons]
    exact ⟨high, or_lt low next, or_lt middle top, last, ih⟩

/-- The pad signs fill the last group. -/
theorem length_sextets (bytes : Bytes) :
    ((sextets bytes).length + padding bytes) % 4 = 0 ∧ padding bytes ≤ 2 := by
  induction bytes using sextets.induct with
  | case1 | case2 | case3 => simp [sextets, padding]
  | case4 a b c rest ih => simp only [sextets, padding, List.length_cons]; omega

/-- What is written is the symbols of the values, and pad signs behind them. -/
theorem symbols_eq (bytes : Bytes) :
    symbols bytes = (sextets bytes).map symbol ++ List.replicate (padding bytes) pad := by
  induction bytes using sextets.induct with
  | case1 | case2 | case3 => rfl
  | case4 a b c rest ih =>
    simp only [symbols, sextets, padding, List.map_cons, List.cons_append, ih]

/-! ### Reading symbols -/

theorem readSymbols_symbols {values : Bytes} (small : ∀ value ∈ values, value.toNat < 64)
    {position count : Nat} (few : count ≤ 2) (filled : (position + values.length + count) % 4 = 0) :
    readSymbols position (values.map symbol ++ List.replicate count pad) = .ok (values, count) := by
  induction values generalizing position with
  | nil =>
    rw [List.length_nil] at filled
    match count, few with
    | 0, _ => rfl
    | 1, _ =>
      have last : ¬ position % 4 < 2 := by omega
      simp [readSymbols, readPadding, last, Except.map]
    | 2, _ =>
      have last : ¬ position % 4 < 2 := by omega
      have next : 2 ≤ (position + 1) % 4 := by omega
      simp [readSymbols, readPadding, last, next, Except.map]
  | cons value rest ih =>
    obtain ⟨first, others⟩ := List.forall_mem_cons.mp small
    obtain ⟨read, plain, -⟩ := symbol_facts first
    have later : readSymbols (position + 1) (rest.map symbol ++ List.replicate count pad) =
        .ok (rest, count) := ih others (by rw [List.length_cons] at filled; omega)
    simp only [List.map_cons, List.cons_append, readSymbols, if_neg plain, read, later, Except.map]

/-! ### Packing values -/

private theorem parts_of_lt : ∀ n < 256, let byte := UInt8.ofNat n
    (byte >>> 2 <<< 2 ||| byte &&& 0x3 = byte ∧ byte >>> 6 <<< 6 ||| byte &&& 0x3F = byte) ∧
    ((byte &&& 0x3) <<< 4 >>> 4 = byte &&& 0x3 ∧ (byte &&& 0x3) <<< 4 <<< 4 = 0 ∧
      (byte &&& 0x3) <<< 4 &&& 0xF = 0) ∧
    ((byte &&& 0xF) <<< 2 >>> 2 = byte &&& 0xF ∧ (byte &&& 0xF) <<< 2 <<< 6 = 0 ∧
      (byte &&& 0xF) <<< 2 &&& 0x3 = 0) ∧
    byte >>> 4 >>> 4 = 0 ∧ byte >>> 6 >>> 2 = 0 := by
  decide +kernel

/-- The two parts of a byte make it again, and moving a part away leaves nothing of it. -/
theorem parts (byte : UInt8) :
    (byte >>> 2 <<< 2 ||| byte &&& 0x3 = byte ∧ byte >>> 6 <<< 6 ||| byte &&& 0x3F = byte) ∧
    ((byte &&& 0x3) <<< 4 >>> 4 = byte &&& 0x3 ∧ (byte &&& 0x3) <<< 4 <<< 4 = 0 ∧
      (byte &&& 0x3) <<< 4 &&& 0xF = 0) ∧
    ((byte &&& 0xF) <<< 2 >>> 2 = byte &&& 0xF ∧ (byte &&& 0xF) <<< 2 <<< 6 = 0 ∧
      (byte &&& 0xF) <<< 2 &&& 0x3 = 0) ∧
    byte >>> 4 >>> 4 = 0 ∧ byte >>> 6 >>> 2 = 0 := by
  have facts := parts_of_lt byte.toNat byte.toNat_lt
  rwa [UInt8.ofNat_toNat] at facts

/-- The first byte of a group, put together from two values. -/
theorem first_byte (a b : UInt8) :
    a >>> 2 <<< 2 ||| ((a &&& 0x3) <<< 4 ||| b >>> 4) >>> 4 = a := by
  rw [UInt8.shiftRight_or, (parts a).2.1.1, (parts b).2.2.2.1, UInt8.or_zero, (parts a).1.1]

theorem second_byte (a b c : UInt8) :
    ((a &&& 0x3) <<< 4 ||| b >>> 4) <<< 4 ||| ((b &&& 0xF) <<< 2 ||| c >>> 6) >>> 2 = b := by
  rw [UInt8.shiftLeft_or, UInt8.shiftRight_or, (parts a).2.1.2.1, UInt8.zero_or,
    (parts b).2.2.1.1, (parts c).2.2.2.2, UInt8.or_zero, Hex.halves]

theorem third_byte (b c : UInt8) :
    ((b &&& 0xF) <<< 2 ||| c >>> 6) <<< 6 ||| c &&& 0x3F = c := by
  rw [UInt8.shiftLeft_or, (parts b).2.2.1.2.1, UInt8.zero_or, (parts c).1.2]

/-- The values make up the bytes. -/
theorem pack_sextets (bytes : Bytes) : pack (sextets bytes) = bytes := by
  induction bytes using sextets.induct with
  | case1 => rfl
  | case2 a =>
    have alone := first_byte a 0
    rw [UInt8.zero_shiftRight, UInt8.or_zero] at alone
    simp only [sextets, pack, alone]
  | case3 a b =>
    have last := second_byte a b 0
    rw [UInt8.zero_shiftRight, UInt8.or_zero] at last
    simp only [sextets, pack, first_byte, last]
  | case4 a b c rest ih =>
    simp only [sextets, pack, first_byte, second_byte, third_byte, ih]

theorem looseBits_group (w x y z : UInt8) (values : Bytes) :
    looseBits (w :: x :: y :: z :: values) = looseBits values := by
  cases values with
  | nil => simp [looseBits]
  | cons value rest =>
    have ends : (w :: x :: y :: z :: value :: rest).getLast? = (value :: rest).getLast? := by simp
    have size : (w :: x :: y :: z :: value :: rest).length % 4 = (value :: rest).length % 4 := by
      simp only [List.length_cons]
      omega
    rw [looseBits, looseBits, ends, size]

/-- The bits that fill up the last value are not set. -/
theorem looseBits_sextets (bytes : Bytes) : looseBits (sextets bytes) = 0 := by
  induction bytes using sextets.induct with
  | case1 => rfl
  | case2 a => exact (parts a).2.1.2.2
  | case3 a b => exact (parts b).2.2.1.2.2
  | case4 a b c rest ih => exact (looseBits_group _ _ _ _ _).trans ih

theorem ofText_encode (bytes : Bytes) : Bytes.ofText (encode bytes) = symbols bytes := by
  refine Bytes.ofText_ofList_map fun sign member => ?_
  rw [symbols_eq] at member
  rcases List.mem_append.mp member with symbol | filler
  · obtain ⟨value, inside, rfl⟩ := List.mem_map.mp symbol
    exact (symbol_facts (sextets_lt bytes value inside)).2.2
  · rw [List.eq_of_mem_replicate filler]
    decide

/-- Bytes in base sixty-four are read back. -/
theorem decode_encode (bytes : Bytes) : decode (encode bytes) = .ok bytes := by
  obtain ⟨filled, few⟩ := length_sextets bytes
  have whole : ¬ (symbols bytes).length % 4 = 1 := by
    rw [symbols_eq, List.length_append, List.length_map, List.length_replicate]
    omega
  have read : readSymbols 0 (symbols bytes) = .ok (sextets bytes, padding bytes) := by
    rw [symbols_eq]
    exact readSymbols_symbols (sextets_lt bytes) few (by omega)
  rw [decode, ofText_encode, decodeSymbols, if_neg whole]
  simp only [read, bind, Except.bind, filled, looseBits_sextets, pack_sextets]
  rfl

/-! ### What is read is a written form -/

private theorem value?_of_lt : ∀ n < 256, (value? (UInt8.ofNat n)).all (fun value =>
    decide (value.toNat < 64 ∧ symbol value = UInt8.ofNat n)) = true := by
  decide +kernel

/-- A byte has a value only if it is the symbol of that value. -/
theorem value?_eq_some {byte : UInt8} (read : value? byte = some value) :
    value.toNat < 64 ∧ symbol value = byte := by
  have facts := value?_of_lt byte.toNat byte.toNat_lt
  rw [UInt8.ofNat_toNat, read] at facts
  simpa using facts

/-- Pad signs are read to the end of a group at most. -/
theorem readPadding_eq_ok {first position count total : Nat} {signs : Bytes}
    (read : readPadding first position count signs = .ok total) :
    ∃ more, signs = List.replicate more pad ∧ total = count + more ∧
      (more = 0 ∨ 2 ≤ position % 4 ∧ position % 4 + more ≤ 4) := by
  induction signs generalizing position count with
  | nil => exact ⟨0, rfl, (Except.ok.inj read).symm, .inl rfl⟩
  | cons sign rest ih =>
    rw [readPadding] at read
    split at read
    · next padded =>
      obtain ⟨rfl, late⟩ := padded
      obtain ⟨more, rfl, rfl, within⟩ := ih read
      exact ⟨more + 1, rfl, by omega, by omega⟩
    · cases read

/-- What is read is the symbols of some values and no more pad signs than fill a group. -/
theorem readSymbols_eq_ok {position count : Nat} {text values : Bytes}
    (read : readSymbols position text = .ok (values, count)) :
    text = values.map symbol ++ List.replicate count pad ∧
      (∀ value ∈ values, value.toNat < 64) ∧ count ≤ 2 := by
  induction text generalizing position values with
  | nil =>
    cases read
    exact ⟨rfl, nofun, Nat.zero_le 2⟩
  | cons byte rest ih =>
    rw [readSymbols] at read
    split at read
    · next padded =>
      split at read
      · cases read
      cases padding : readPadding position (position + 1) 1 rest with
      | error fault => simp [padding, Except.map] at read
      | ok total =>
        simp only [padding, Except.map, Except.ok.injEq, Prod.mk.injEq] at read
        obtain ⟨rfl, rfl⟩ := read
        obtain ⟨more, rfl, rfl, within⟩ := readPadding_eq_ok padding
        refine ⟨?_, nofun, by omega⟩
        rw [padded, Nat.add_comm, List.replicate_succ]
        rfl
    · cases valued : value? byte with
      | none => simp [valued] at read
      | some value =>
        cases later : readSymbols (position + 1) rest with
        | error fault => simp [valued, later, Except.map] at read
        | ok result =>
          obtain ⟨others, padding⟩ := result
          simp only [valued, later, Except.map, Except.ok.injEq, Prod.mk.injEq] at read
          obtain ⟨rfl, rfl⟩ := read
          obtain ⟨small, same⟩ := value?_eq_some valued
          obtain ⟨written, smaller, few⟩ := ih later
          refine ⟨?_, List.forall_mem_cons.mpr ⟨small, smaller⟩, few⟩
          rw [written, ← same]
          rfl

private theorem pieces_of_lt : ∀ n < 64, let value := UInt8.ofNat n
    (value <<< 2 >>> 2 = value ∧ value <<< 2 &&& 0x3 = 0) ∧
    (value >>> 4 >>> 2 = 0 ∧ (value >>> 4 &&& 0x3) <<< 4 ||| value <<< 4 >>> 4 = value ∧
      value <<< 4 &&& 0xF = 0 ∧ value <<< 4 >>> 4 = value &&& 0xF) ∧
    (value >>> 2 >>> 4 = 0 ∧ (value >>> 2 &&& 0xF) <<< 2 ||| value <<< 6 >>> 6 = value ∧
      value <<< 6 &&& 0x3F = 0 ∧ value <<< 6 >>> 6 = value &&& 0x3) ∧
    value >>> 6 = 0 ∧ value &&& 0x3F = value := by
  decide +kernel

/-- The pieces that a value of six bits is cut into make it again. -/
theorem pieces (small : value.toNat < 64) :
    (value <<< 2 >>> 2 = value ∧ value <<< 2 &&& 0x3 = 0) ∧
    (value >>> 4 >>> 2 = 0 ∧ (value >>> 4 &&& 0x3) <<< 4 ||| value <<< 4 >>> 4 = value ∧
      value <<< 4 &&& 0xF = 0 ∧ value <<< 4 >>> 4 = value &&& 0xF) ∧
    (value >>> 2 >>> 4 = 0 ∧ (value >>> 2 &&& 0xF) <<< 2 ||| value <<< 6 >>> 6 = value ∧
      value <<< 6 &&& 0x3F = 0 ∧ value <<< 6 >>> 6 = value &&& 0x3) ∧
    value >>> 6 = 0 ∧ value &&& 0x3F = value := by
  have facts := pieces_of_lt value.toNat small
  rwa [UInt8.ofNat_toNat] at facts

theorem or_and_mask (left right mask : UInt8) :
    (left ||| right) &&& mask = left &&& mask ||| right &&& mask :=
  UInt8.eq_of_toBitVec_eq BitVec.and_or_distrib_right

theorem first_sextet {a b : UInt8} (smallA : a.toNat < 64) (smallB : b.toNat < 64) :
    (a <<< 2 ||| b >>> 4) >>> 2 = a := by
  rw [UInt8.shiftRight_or, (pieces smallA).1.1, (pieces smallB).2.1.1, UInt8.or_zero]

theorem second_sextet {a b c : UInt8} (smallA : a.toNat < 64) (smallB : b.toNat < 64)
    (smallC : c.toNat < 64) :
    ((a <<< 2 ||| b >>> 4) &&& 0x3) <<< 4 ||| (b <<< 4 ||| c >>> 2) >>> 4 = b := by
  rw [or_and_mask, (pieces smallA).1.2, UInt8.zero_or, UInt8.shiftRight_or, (pieces smallC).2.2.1.1,
    UInt8.or_zero, (pieces smallB).2.1.2.1]

theorem third_sextet {b c d : UInt8} (smallB : b.toNat < 64) (smallC : c.toNat < 64)
    (smallD : d.toNat < 64) :
    ((b <<< 4 ||| c >>> 2) &&& 0xF) <<< 2 ||| (c <<< 6 ||| d) >>> 6 = c := by
  rw [or_and_mask, (pieces smallB).2.1.2.2.1, UInt8.zero_or, UInt8.shiftRight_or,
    (pieces smallD).2.2.2.1, UInt8.or_zero, (pieces smallC).2.2.1.2.1]

theorem fourth_sextet {c d : UInt8} (smallC : c.toNat < 64) (smallD : d.toNat < 64) :
    (c <<< 6 ||| d) &&& 0x3F = d := by
  rw [or_and_mask, (pieces smallC).2.2.1.2.2.1, UInt8.zero_or, (pieces smallD).2.2.2.2]

/-- Values that fill their bytes are those that the bytes are cut into. -/
theorem sextets_pack {values : Bytes} (small : ∀ value ∈ values, value.toNat < 64) {count : Nat}
    (few : count ≤ 2) (filled : (values.length + count) % 4 = 0) (tight : looseBits values = 0) :
    sextets (pack values) = values ∧ padding (pack values) = count := by
  induction values using pack.induct with
  | case1 a b c d rest ih =>
    simp only [List.forall_mem_cons] at small
    obtain ⟨smallA, smallB, smallC, smallD, smaller⟩ := small
    rw [looseBits_group] at tight
    obtain ⟨cut, filler⟩ := ih smaller (by simp only [List.length_cons] at filled; omega) tight
    simp only [pack, sextets, padding]
    rw [first_sextet smallA smallB, second_sextet smallA smallB smallC,
      third_sextet smallB smallC smallD, fourth_sextet smallC smallD, cut]
    exact ⟨rfl, filler⟩
  | case2 a b c =>
    simp only [List.forall_mem_cons] at small
    obtain ⟨smallA, smallB, smallC, -⟩ := small
    -- The loose bits of the last value are those of a byte that is not there.
    have loose : c &&& 0x3 = 0 := tight
    have last := third_sextet smallB smallC (d := 0) (by decide)
    rw [UInt8.or_zero, (pieces smallC).2.2.1.2.2.2, loose, UInt8.or_zero] at last
    simp only [pack, sextets, padding]
    rw [first_sextet smallA smallB, second_sextet smallA smallB smallC, last]
    exact ⟨rfl, by simp only [List.length_cons, List.length_nil] at filled; omega⟩
  | case3 a b =>
    simp only [List.forall_mem_cons] at small
    obtain ⟨smallA, smallB, -⟩ := small
    have loose : b &&& 0xF = 0 := tight
    have last := second_sextet smallA smallB (c := 0) (by decide)
    rw [UInt8.zero_shiftRight, UInt8.or_zero, (pieces smallB).2.1.2.2.2, loose,
      UInt8.or_zero] at last
    simp only [pack, sextets, padding]
    rw [first_sextet smallA smallB, last]
    exact ⟨rfl, by simp only [List.length_cons, List.length_nil] at filled; omega⟩
  | case4 values group three two =>
    match values, group, three, two, filled with
    | [], _, _, _, filled =>
      exact ⟨rfl, by simp only [padding, pack, List.length_nil] at filled ⊢; omega⟩
    | [_], _, _, _, filled => simp only [List.length_cons, List.length_nil] at filled; omega
    | [_, _], _, _, two, _ => exact absurd rfl (two _ _)
    | [_, _, _], _, three, _, _ => exact absurd rfl (three _ _ _)
    | _ :: _ :: _ :: _ :: _, group, _, _, _ => exact absurd rfl (group _ _ _ _ _)

/-- A text is read as some bytes exactly if it is their written form. -/
theorem decode_eq_ok_iff {text : String} {bytes : Bytes} :
    decode text = .ok bytes ↔ text = encode bytes := by
  constructor
  · intro read
    rw [decode, decodeSymbols] at read
    split at read
    · cases read
    cases split : readSymbols 0 (Bytes.ofText text) with
    | error fault => simp [split, bind, Except.bind] at read
    | ok result =>
      obtain ⟨values, count⟩ := result
      obtain ⟨written, small, few⟩ := readSymbols_eq_ok split
      simp only [split, bind, Except.bind] at read
      split at read
      · cases read
      next filled =>
      split at read
      · cases read
      next tight =>
      obtain rfl := Except.ok.inj read
      obtain ⟨cut, filler⟩ := sextets_pack small few (Decidable.not_not.mp filled)
        (Decidable.not_not.mp tight)
      apply Bytes.ofText_injective
      rw [ofText_encode, symbols_eq, cut, filler, written]
  · rintro rfl
    exact decode_encode bytes

end Resharing.Base64
