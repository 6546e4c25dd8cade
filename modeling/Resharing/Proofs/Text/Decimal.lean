import Mathlib.Data.List.Induction
import Mathlib.Data.Nat.Digits.Defs
import Resharing.Text.Decimal

/-!
# What a numeral denotes

A numeral is told here by its form: digits, one at least, perhaps behind a plus sign. The number
that it denotes is theirs in base ten, whatever zeros lead them. A text that is read is a
numeral of a number below the limit; what is said against another text depends on what comes
first in it, digits that already reach the limit or a character that is no digit.

## Main definitions

* `Decimal.denoted`: the number that digits denote
* `Decimal.Spells`: the numerals of a number
* `Decimal.Faulty`: what is said against a text

## Main results

* `Decimal.read_eq_ok_iff`, `Decimal.read_eq_error_iff`: what is read, and why the rest is not
* `Decimal.spells_digits`: the digits that are written are a numeral
-/

namespace Resharing.Decimal

variable {limit value n : Nat} {front rest numeral : List Char} {c : Char} {fault : Fault}

def IsDigit (c : Char) : Prop := '0' ≤ c ∧ c ≤ '9'

/-- The number that a digit stands for. -/
def worth (c : Char) : Nat := c.toNat - '0'.toNat

/-- The number that digits denote, the last of which counts ones. -/
def denoted (digits : List Char) : Nat := Nat.ofDigits 10 (digits.reverse.map worth)

/-- What a numeral has behind its sign, if it has a sign. -/
def unsigned : List Char → List Char
  | '+' :: rest => rest
  | numeral => numeral

/-- A text is a numeral of a number. -/
structure Spells (numeral : List Char) (value : Nat) : Prop where
  inhabited : unsigned numeral ≠ []
  digits : ∀ c ∈ unsigned numeral, IsDigit c
  value : denoted (unsigned numeral) = value

/-- A text begins, behind its sign, with digits that denote a number from the limit on. -/
def Overflows (limit : Nat) (numeral : List Char) : Prop :=
  ∃ front, front <+: unsigned numeral ∧ (∀ c ∈ front, IsDigit c) ∧ limit ≤ denoted front

/-- What is said against a text that is no numeral of a number below the limit. -/
inductive Faulty (limit : Nat) : List Char → Fault → Prop
  | empty : Faulty limit [] .empty
  | tooLarge {numeral : List Char} (overflows : Overflows limit numeral) :
      Faulty limit numeral .tooLarge
  /-- Something else than a digit comes before the digits reach the limit, or no digit comes. -/
  | badDigit {numeral : List Char} (some : numeral ≠ []) (small : ¬ Overflows limit numeral)
      (alien : ¬ ∃ value, Spells numeral value) : Faulty limit numeral .badDigit

/-! ### Digits -/

theorem digit?_of_isDigit (digit : IsDigit c) : digit? c = some (worth c) := if_pos digit

theorem digit?_of_not_isDigit (alien : ¬ IsDigit c) : digit? c = none := if_neg alien

/-- The digits in front count tens when one more comes behind. -/
theorem denoted_concat (front : List Char) (c : Char) :
    denoted (front ++ [c]) = denoted front * 10 + worth c := by
  rw [denoted, List.reverse_append, List.reverse_singleton, List.singleton_append, List.map_cons,
    Nat.ofDigits_cons, denoted, Nat.mul_comm, Nat.add_comm]

theorem denoted_le_append (front rest : List Char) : denoted front ≤ denoted (front ++ rest) := by
  induction rest using List.reverseRecOn with
  | nil => rw [List.append_nil]
  | append_singleton rest c ih =>
    rw [← List.append_assoc, denoted_concat]
    omega

/-! ### Reading digits -/

/-- A digit that is read behind others, and what it brings their number to. -/
theorem readDigits_cons (digit : IsDigit c) : readDigits limit (denoted front) (c :: rest) =
    if denoted (front ++ [c]) < limit then readDigits limit (denoted (front ++ [c])) rest
    else .error .tooLarge := by
  rw [readDigits, digit?_of_isDigit digit, denoted_concat]

theorem readDigits_of_not_isDigit (alien : ¬ IsDigit c) :
    readDigits limit value (c :: rest) = .error .badDigit := by
  rw [readDigits, digit?_of_not_isDigit alien]

/-- Digits are read behind others exactly if nothing else is there and the number of them all
stays below the limit. -/
theorem readDigits_eq_ok_iff (below : denoted front < limit) :
    readDigits limit (denoted front) rest = .ok value ↔
      (∀ c ∈ rest, IsDigit c) ∧ denoted (front ++ rest) = value ∧ value < limit := by
  induction rest generalizing front with
  | nil =>
    simp only [readDigits, Except.ok.injEq, List.not_mem_nil, false_implies, implies_true,
      List.append_nil, true_and]
    exact ⟨fun same => ⟨same, same ▸ below⟩, And.left⟩
  | cons c rest ih =>
    by_cases digit : IsDigit c
    · rw [readDigits_cons digit, List.forall_mem_cons,
        show front ++ c :: rest = front ++ [c] ++ rest from List.append_cons front c rest]
      split_ifs with fits
      · rw [ih fits, and_iff_right digit]
      · have reached := denoted_le_append (front ++ [c]) rest
        simp only [false_iff]
        rintro ⟨-, rfl, small⟩
        omega
    · rw [readDigits_of_not_isDigit digit]
      simp [digit]

/-- The limit is reached exactly if the digits that come first reach it. -/
theorem readDigits_eq_tooLarge_iff (below : denoted front < limit) :
    readDigits limit (denoted front) rest = .error .tooLarge ↔
      ∃ more, more <+: rest ∧ (∀ c ∈ more, IsDigit c) ∧ limit ≤ denoted (front ++ more) := by
  induction rest generalizing front with
  | nil =>
    simp only [readDigits, List.prefix_nil, reduceCtorEq, false_iff]
    rintro ⟨more, rfl, -, reached⟩
    rw [List.append_nil] at reached
    omega
  | cons c rest ih =>
    have next : (∃ more, more <+: c :: rest ∧ (∀ c ∈ more, IsDigit c) ∧
          limit ≤ denoted (front ++ more)) ↔
        IsDigit c ∧ ∃ more, more <+: rest ∧ (∀ c ∈ more, IsDigit c) ∧
          limit ≤ denoted (front ++ [c] ++ more) := by
      constructor
      · rintro ⟨more, leads, digits, reached⟩
        rcases List.prefix_cons_iff.mp leads with rfl | ⟨later, rfl, follows⟩
        · rw [List.append_nil] at reached
          omega
        · rw [List.append_cons] at reached
          obtain ⟨digit, digits⟩ := List.forall_mem_cons.mp digits
          exact ⟨digit, later, follows, digits, reached⟩
      · rintro ⟨digit, more, leads, digits, reached⟩
        rw [← List.append_cons] at reached
        exact ⟨c :: more, List.cons_prefix_cons.mpr ⟨rfl, leads⟩,
          List.forall_mem_cons.mpr ⟨digit, digits⟩, reached⟩
    rw [next]
    by_cases digit : IsDigit c
    · rw [readDigits_cons digit, and_iff_right digit]
      split_ifs with fits
      · exact ih fits
      · refine iff_of_true rfl ⟨[], List.nil_prefix, by simp, ?_⟩
        rw [List.append_nil]
        omega
    · rw [readDigits_of_not_isDigit digit]
      simp [digit]

theorem readDigits_ne_empty : readDigits limit value rest ≠ .error .empty := by
  induction rest generalizing value with
  | nil => simp [readDigits]
  | cons c rest ih =>
    simp only [readDigits]
    split
    · simp
    · split_ifs
      · exact ih
      · simp

/-! ### Reading numerals -/

theorem read_of_inhabited (inhabited : unsigned numeral ≠ []) :
    read limit numeral = readDigits limit (denoted []) (unsigned numeral) := by
  rw [read.eq_def]
  split
  · exact absurd rfl inhabited
  · exact absurd rfl inhabited
  · rfl
  · rw [unsigned]
    · rfl
    · assumption

/-- Without a character behind the sign nothing is read. -/
theorem read_of_bare (bare : unsigned numeral = []) :
    read limit numeral = .error (if numeral = [] then .empty else .badDigit) := by
  rw [unsigned.eq_def] at bare
  split at bare
  · rw [bare]
    rfl
  · rw [bare]
    rfl

theorem overflows_of_bare (room : 0 < limit) (bare : unsigned numeral = []) :
    ¬ Overflows limit numeral := by
  rintro ⟨front, leads, -, reached⟩
  rw [bare, List.prefix_nil] at leads
  rw [leads] at reached
  exact absurd room (Nat.not_lt.mpr reached)

/-- A text is read exactly if it is a numeral of a number below the limit. -/
theorem read_eq_ok_iff (room : 0 < limit) :
    read limit numeral = .ok value ↔ Spells numeral value ∧ value < limit := by
  by_cases bare : unsigned numeral = []
  · rw [read_of_bare bare]
    simp only [reduceCtorEq, false_iff]
    exact fun ⟨spells, _⟩ => spells.inhabited bare
  · rw [read_of_inhabited bare, readDigits_eq_ok_iff room]
    exact ⟨fun ⟨digits, denotes, small⟩ => ⟨⟨bare, digits, denotes⟩, small⟩,
      fun ⟨⟨_, digits, denotes⟩, small⟩ => ⟨digits, denotes, small⟩⟩

theorem read_eq_tooLarge_iff (room : 0 < limit) :
    read limit numeral = .error .tooLarge ↔ Overflows limit numeral := by
  by_cases bare : unsigned numeral = []
  · rw [read_of_bare bare]
    refine iff_of_false (fun same => ?_) (overflows_of_bare room bare)
    split at same <;> simp at same
  · rw [read_of_inhabited bare, readDigits_eq_tooLarge_iff room]
    rfl

theorem read_eq_empty_iff : read limit numeral = .error .empty ↔ numeral = [] := by
  by_cases bare : unsigned numeral = []
  · rw [read_of_bare bare]
    by_cases empty : numeral = [] <;> simp [empty]
  · rw [read_of_inhabited bare]
    exact iff_of_false readDigits_ne_empty (fun empty => bare (by rw [empty]; rfl))

/-- The digits of a numeral reach the limit, the first few or all of them, exactly if its number
does. -/
theorem Spells.overflows_iff (spells : Spells numeral value) :
    Overflows limit numeral ↔ limit ≤ value := by
  obtain ⟨-, digits, rfl⟩ := spells
  constructor
  · rintro ⟨front, ⟨rest, whole⟩, -, reached⟩
    rw [← whole]
    exact reached.trans (denoted_le_append front rest)
  · exact fun reached => ⟨unsigned numeral, List.prefix_rfl, digits, reached⟩

/-- What is said against a text that is not read. -/
theorem read_eq_error_iff (room : 0 < limit) :
    read limit numeral = .error fault ↔ Faulty limit numeral fault := by
  constructor
  · intro refused
    cases fault with
    | empty =>
      rw [read_eq_empty_iff.mp refused]
      exact .empty
    | tooLarge => exact .tooLarge ((read_eq_tooLarge_iff room).mp refused)
    | badDigit =>
      have small : ¬ Overflows limit numeral := by
        intro overflows
        rw [(read_eq_tooLarge_iff room).mpr overflows] at refused
        simp at refused
      refine .badDigit (fun empty => ?_) small (fun ⟨value, spells⟩ => ?_)
      · rw [read_eq_empty_iff.mpr empty] at refused
        simp at refused
      · have fits := Nat.not_le.mp (mt spells.overflows_iff.mpr small)
        rw [(read_eq_ok_iff room).mpr ⟨spells, fits⟩] at refused
        simp at refused
  · rintro (_ | overflows | ⟨some, small, alien⟩)
    · exact read_eq_empty_iff.mpr rfl
    · exact (read_eq_tooLarge_iff room).mpr overflows
    · cases outcome : read limit numeral with
      | ok value => exact absurd ⟨value, ((read_eq_ok_iff room).mp outcome).1⟩ alien
      | error fault =>
        cases fault with
        | empty => exact absurd (read_eq_empty_iff.mp outcome) some
        | tooLarge => exact absurd ((read_eq_tooLarge_iff room).mp outcome) small
        | badDigit => rfl

/-! ### Writing -/

theorem exists_digitChar {c : Char} (member : c ∈ digits n) :
    ∃ d < 10, c = digitChar d := by
  induction n using Nat.strongRecOn with
  | _ n ih =>
    rw [digits] at member
    by_cases small : n < 10
    · rw [if_pos small, List.mem_singleton] at member
      exact ⟨n, small, member⟩
    · rw [if_neg small, List.mem_append, List.mem_singleton] at member
      rcases member with earlier | rfl
      · exact ih (n / 10) (by omega) earlier
      · exact ⟨n % 10, by omega, rfl⟩

theorem digitChar_facts : ∀ d < 10, IsDigit (digitChar d) ∧ worth (digitChar d) = d := by
  unfold IsDigit
  decide

theorem unsigned_of_digits (digits : ∀ c ∈ numeral, IsDigit c) : unsigned numeral = numeral := by
  rw [unsigned.eq_def]
  split
  · exact absurd (digits _ List.mem_cons_self) (by unfold IsDigit; decide)
  · rfl

/-- The digits of a number are a numeral of it. -/
theorem spells_digits (n : Nat) : Spells (digits n) n := by
  have written : digits n ≠ [] ∧ (∀ c ∈ digits n, IsDigit c) ∧ denoted (digits n) = n := by
    induction n using Nat.strongRecOn with
    | _ n ih =>
      rw [digits]
      split_ifs with small
      · obtain ⟨digit, stands⟩ := digitChar_facts n small
        refine ⟨by simp, by simpa using digit, ?_⟩
        simpa [denoted] using stands
      · obtain ⟨-, earlier, denotes⟩ := ih (n / 10) (by omega)
        obtain ⟨digit, stands⟩ := digitChar_facts (n % 10) (by omega)
        refine ⟨by simp, ?_, ?_⟩
        · rw [List.forall_mem_append]
          exact ⟨earlier, by simpa using digit⟩
        · rw [denoted_concat, denotes, stands]
          omega
  obtain ⟨inhabited, isDigits, denotes⟩ := written
  have bare := unsigned_of_digits isDigits
  exact ⟨by rwa [bare], by rwa [bare], by rwa [bare]⟩

end Resharing.Decimal
