import Mathlib.Data.List.Basic
import Resharing.Json.Reader
import Resharing.Proofs.Text.Decimal
import Resharing.Proofs.Text.Hex

/-!
# Numerals are read back

The numeral of a number has no sign and no leading zero, so it is read as that number when it is
below 2^64. This needs that no byte follows with which the numeral would go on.

## Main definitions

* `Json.Ends`: what may follow a numeral

## Main results

* `Json.readNumber_numeral`, `Json.readNatural_numeral`: numerals are read back
* `Json.numeral_inj`, `Json.length_numeral_le`: numerals differ and are short
* `Json.quoted_text`: a number between quotes
-/

namespace Resharing.Json

variable {n limit value : Nat} {byte : UInt8} {tail : Bytes}

/-- Whether a numeral goes on with a byte. -/
def goesOn (byte : UInt8) : Bool :=
  isDigit byte || byte == ascii '.' || byte == ascii 'e' || byte == ascii 'E'

/-- Whether a numeral in front of some bytes ends there. -/
def Ends (tail : Bytes) : Prop := ∀ byte ∈ tail.head?, goesOn byte = false

@[simp] theorem ends_nil : Ends [] := by simp [Ends]

@[simp] theorem ends_cons : Ends (byte :: tail) ↔ goesOn byte = false := by simp [Ends]

/-! ### Digits -/

private theorem digit_facts : ∀ d < 10, let digit := ascii (Decimal.digitChar d)
    isDigit digit = true ∧ (digit - ascii '0').toNat = d ∧ (digit = ascii '0' ↔ d = 0) := by
  decide

/-- Digits are ASCII and stand for themselves inside a text. -/
private theorem plain_facts : ∀ d < 10, let digit := ascii (Decimal.digitChar d)
    (Decimal.digitChar d).toNat < 128 ∧ escape digit = [digit] := by
  decide

theorem numeral_of_lt (small : n < 10) : numeral n = [ascii (Decimal.digitChar n)] := by
  rw [numeral, Decimal.digits, if_pos small, List.map_singleton]

theorem numeral_of_le (large : 10 ≤ n) :
    numeral n = numeral (n / 10) ++ [ascii (Decimal.digitChar (n % 10))] := by
  rw [numeral, Decimal.digits, if_neg (by omega), List.map_append, List.map_singleton, numeral]

theorem isDigit_of_mem_numeral (member : byte ∈ numeral n) : isDigit byte = true := by
  obtain ⟨c, digit, rfl⟩ := List.mem_map.mp member
  obtain ⟨d, small, rfl⟩ := Decimal.exists_digitChar digit
  exact (digit_facts d small).1

/-- A numeral starts with a digit, which is zero only when it is the whole numeral. -/
theorem numeral_eq_cons (n : Nat) : ∃ first rest, numeral n = first :: rest ∧
    isDigit first = true ∧ (first = ascii '0' → n = 0 ∧ rest = []) := by
  induction n using Nat.strongRecOn with
  | _ n ih =>
    by_cases small : n < 10
    · obtain ⟨digit, -, zero⟩ := digit_facts n small
      exact ⟨_, [], numeral_of_lt small, digit, fun first => ⟨zero.mp first, rfl⟩⟩
    · obtain ⟨first, rest, split, digit, zero⟩ := ih (n / 10) (by omega)
      refine ⟨first, rest ++ [ascii (Decimal.digitChar (n % 10))], ?_, digit, fun first => ?_⟩
      · rw [numeral_of_le (by omega), split, List.cons_append]
      · -- The number has a tenth part, so its first digit is not zero.
        have none := (zero first).1
        omega

/-- The text of a number is its numeral. -/
theorem ofText_text (n : Nat) : Bytes.ofText (Decimal.text n) = numeral n := by
  apply Bytes.ofText_ofList
  intro c member
  obtain ⟨d, small, rfl⟩ := Decimal.exists_digitChar member
  exact (plain_facts d small).1

/-- A number below a power of ten has no more digits than the power has zeros. -/
theorem length_numeral_le {places : Nat} (below : n < Nat.pow 10 (places + 1)) :
    (numeral n).length ≤ places + 1 := by
  induction places generalizing n with
  | zero =>
    have small : n < 10 := below
    simp [numeral_of_lt small]
  | succ places ih =>
    by_cases small : n < 10
    · rw [numeral_of_lt small, List.length_singleton]
      omega
    · have less : n < 10 * Nat.pow 10 (places + 1) := Nat.mul_comm _ 10 ▸ below
      have front := ih (Nat.div_lt_of_lt_mul less)
      rw [numeral_of_le (by omega), List.length_append, List.length_singleton]
      omega

/-- No digit is escaped, so a number between quotes is its numeral between quotes. -/
theorem quoted_text (n : Nat) : quoted (Decimal.text n) = quote :: (numeral n ++ [quote]) := by
  have plain : ∀ c ∈ Decimal.digits n, escape (ascii c) = [ascii c] := by
    intro c member
    obtain ⟨d, small, rfl⟩ := Decimal.exists_digitChar member
    exact (plain_facts d small).2
  have unchanged : (numeral n).flatMap escape = numeral n := by
    rw [numeral, List.flatMap_map, List.map_eq_flatMap]
    exact List.flatMap_congr plain
  rw [quoted, ofText_text, unchanged]

/-! ### What a numeral denotes -/

theorem extend_append {front back : Bytes} {start : Nat} (whole : extend start front = (value, 0)) :
    extend start (front ++ back) = extend value back := by
  induction front generalizing start with
  | nil => simpa [extend] using congrArg (fun r => extend r.1 back) whole
  | cons digit rest ih =>
    -- A digit that no longer fits would have been counted as left over.
    by_cases fits : start * 10 + (digit - ascii '0').toNat < UInt64.size
    · simp only [extend, fits, if_true, List.cons_append] at whole ⊢
      exact ih whole
    · rw [extend, if_neg fits] at whole
      exact absurd (Prod.mk.inj whole).2 (Nat.succ_ne_zero _)

theorem extend_numeral (below : n < UInt64.size) : extend 0 (numeral n) = (n, 0) := by
  induction n using Nat.strongRecOn with
  | _ n ih =>
    by_cases small : n < 10
    · obtain ⟨-, worth, -⟩ := digit_facts n small
      simp only [numeral_of_lt small, extend, worth, Nat.zero_mul, Nat.zero_add, if_pos below]
    · obtain ⟨-, worth, -⟩ := digit_facts (n % 10) (by omega)
      have front := ih (n / 10) (by omega) (by omega)
      have sum : n / 10 * 10 + n % 10 = n := by omega
      rw [numeral_of_le (by omega), extend_append front]
      simp only [extend, worth, sum, if_pos below]

/-- Numbers below 2^64 that have one numeral are equal. -/
theorem numeral_inj {m : Nat} (below : n < UInt64.size) (belowToo : m < UInt64.size)
    (same : numeral n = numeral m) : n = m := by
  have read := extend_numeral below
  rw [same, extend_numeral belowToo] at read
  exact (Prod.mk.inj read).1.symm

/-! ### Reading -/

theorem not_isDigit_of_ends (ends : Ends tail) : ∀ byte ∈ tail.head?, isDigit byte = false := by
  intro byte first
  have apart := ends byte first
  simp only [goesOn, Bool.or_eq_false_iff] at apart
  exact apart.1.1.1

theorem takeWhile_digits {digits : Bytes} (all : ∀ byte ∈ digits, isDigit byte = true)
    (ends : Ends tail) : (digits ++ tail).takeWhile isDigit = digits ∧
      (digits ++ tail).dropWhile isDigit = tail := by
  have stops : tail.takeWhile isDigit = [] ∧ tail.dropWhile isDigit = tail := by
    cases tail with
    | nil => exact ⟨rfl, rfl⟩
    | cons byte rest =>
      have apart := not_isDigit_of_ends ends byte rfl
      simp [apart]
  rw [List.takeWhile_append_of_pos all, List.dropWhile_append_of_pos all, stops.1, stops.2,
    List.append_nil]
  exact ⟨rfl, rfl⟩

theorem readFraction_of_ends (ends : Ends tail) : readFraction tail = .ok (none, tail) := by
  cases tail with
  | nil => rfl
  | cons byte rest =>
    have apart := ends byte rfl
    simp only [goesOn, Bool.or_eq_false_iff, beq_eq_false_iff_ne] at apart
    exact if_neg apart.1.1.2

theorem readExponent_of_ends (ends : Ends tail) : readExponent tail = .ok (none, tail) := by
  cases tail with
  | nil => rfl
  | cons byte rest =>
    have apart := ends byte rfl
    simp only [goesOn, Bool.or_eq_false_iff, beq_eq_false_iff_ne] at apart
    exact if_neg fun letter => letter.elim apart.1.2 apart.2

theorem readNumeral_numeral (n : Nat) (ends : Ends tail) :
    readNumeral (numeral n ++ tail) = .ok (⟨false, numeral n, none, none⟩, tail) := by
  obtain ⟨first, rest, split, digit, zero⟩ := numeral_eq_cons n
  have unsigned : first ≠ ascii '-' := by
    rintro rfl
    exact absurd digit (by decide)
  have whole : readDigits (first :: (rest ++ tail)) = .ok (numeral n, tail) := by
    obtain ⟨taken, left⟩ := takeWhile_digits (fun _ => isDigit_of_mem_numeral (n := n)) ends
    rw [← List.cons_append, ← split, readDigits, taken, left]
    exact if_neg (by simp [split])
  -- Only zero begins with a zero, and its numeral has one digit.
  have short : ¬((numeral n).head? = some (ascii '0') ∧ 1 < (numeral n).length) := by
    rintro ⟨leads, long⟩
    rw [split, List.head?_cons, Option.some_inj] at leads
    rw [split, (zero leads).2] at long
    exact absurd long (by simp)
  rw [split, List.cons_append, ← split]
  simp only [readNumeral, if_neg unsigned, whole, bind, Except.bind, if_neg short,
    readFraction_of_ends ends, readExponent_of_ends ends, pure, Except.pure]

/-- A numeral below 2^64 is read as the number it was written for. -/
theorem readNumber_numeral (below : n < UInt64.size) (ends : Ends tail) :
    readNumber (numeral n ++ tail) = .ok (.natural n, tail) := by
  simp only [readNumber, readNumeral_numeral n ends, Numeral.number, extend_numeral below, bind,
    Except.bind, Option.isNone_none, Bool.not_false, Bool.and_self, and_self, if_true, pure,
    Except.pure]

theorem isSpace_of_isDigit (digit : isDigit byte = true) : isSpace byte = false := by
  cases space : isSpace byte with
  | false => rfl
  | true =>
    simp only [isSpace, Bool.or_eq_true, beq_iff_eq] at space
    rcases space with ((rfl | rfl) | rfl) | rfl <;> exact absurd digit (by decide)

theorem skipSpace_solid (solid : isSpace byte = false) :
    skipSpace (byte :: tail) = byte :: tail := by
  rw [skipSpace, List.dropWhile_cons_of_neg (by simp [solid])]

theorem skipSpace_numeral (n : Nat) (tail : Bytes) :
    skipSpace (numeral n ++ tail) = numeral n ++ tail := by
  obtain ⟨first, rest, split, digit, -⟩ := numeral_eq_cons n
  rw [split, List.cons_append, skipSpace_solid (isSpace_of_isDigit digit)]

theorem readNatural_numeral (limited : limit ≤ UInt64.size) (below : n < limit) (ends : Ends tail) :
    readNatural limit (numeral n ++ tail) = .ok (n, tail) := by
  obtain ⟨first, rest, split, digit, -⟩ := numeral_eq_cons n
  have number : readNumber (first :: (rest ++ tail)) = .ok (.natural n, tail) := by
    rw [← List.cons_append, ← split]
    exact readNumber_numeral (by omega) ends
  rw [readNatural, skipSpace_numeral, split, List.cons_append]
  simp only [digit, or_true, if_true, number, bind, Except.bind, if_pos below, pure, Except.pure]

end Resharing.Json
