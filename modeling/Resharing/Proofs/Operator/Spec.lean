import Resharing.Operator.Spec
import Resharing.Proofs.Text.Blank
import Resharing.Proofs.Text.Decimal

/-!
# The grammar of operator specifications

A specification has exactly one equals sign. What stands before it trims to a numeral below
2^64, and what stands behind it trims to the address, which is not empty. Blanks are trimmed
twice, around the whole and around each part; a sign is not blank, so the first time does
nothing that the second would not do. Of two faults the one in the form of the whole is
reported, whatever the id is like.

## Main definitions

* `Operator.Spec.Split`: a text around its only equals sign
* `Operator.Spec.Says`: the specifications of an id and an address
* `Operator.Spec.Malformed`, `Operator.Spec.Refused`: what is reported of the others

## Main results

* `Operator.Spec.parse_exact`: the specifications that are read, and why the rest is not
-/

namespace Resharing.Operator.Spec

variable {text core before after numeral : List Char} {spec address : String}
  {id : OperatorId} {fault : Decimal.Fault}

/-- A text has one equals sign, and these are its sides. -/
structure Split (text before after : List Char) : Prop where
  text : text = before ++ '=' :: after
  before : '=' ∉ before
  after : '=' ∉ after

/-- A text specifies an operator with this id at this address. -/
inductive Says (spec : String) (id : OperatorId) (address : String) : Prop
  | intro {before after numeral : List Char} (split : Split spec.toList before after)
      (trimmed : Text.Trims before numeral) (spells : Decimal.Spells numeral id.toNat)
      (located : Text.Trims after address.toList) (inhabited : address ≠ "")

/-- A text does not have exactly one equals sign, or only blanks come behind it. -/
inductive Malformed (spec : String) : Prop
  | signs (other : spec.toList.count '=' ≠ 1)
  | address {before after : List Char} (split : Split spec.toList before after)
      (blank : ∀ c ∈ after, Text.isBlank c = true)

/-- What is reported of a text that specifies no operator. It names the trimmed text. -/
inductive Refused (spec : String) : Error → Prop
  | malformed {named : String} (names : Text.Trims spec.toList named.toList)
      (malformed : Malformed spec) : Refused spec (.malformedSpec named)
  | id {named : String} {before after numeral : List Char} {fault : Decimal.Fault}
      (names : Text.Trims spec.toList named.toList) (wellFormed : ¬ Malformed spec)
      (split : Split spec.toList before after) (trimmed : Text.Trims before numeral)
      (faulty : Decimal.Faulty UInt64.size numeral fault) :
      Refused spec (.badOperatorId named fault)

/-! ### The parts of a text -/

theorem parts_of_not_mem (missing : '=' ∉ text) : parts text = [text] := by
  induction text with
  | nil => rfl
  | cons c rest ih =>
    obtain ⟨other, missing⟩ := List.ne_and_not_mem_of_not_mem_cons missing
    rw [parts, if_neg (Ne.symm other), ih missing]

theorem parts_append_cons (missing : '=' ∉ before) :
    parts (before ++ '=' :: after) = before :: parts after := by
  induction before with
  | nil => rfl
  | cons c rest ih =>
    obtain ⟨other, missing⟩ := List.ne_and_not_mem_of_not_mem_cons missing
    rw [List.cons_append, parts, if_neg (Ne.symm other), ih missing]

/-- There is one more part than signs. -/
theorem length_parts (text : List Char) : (parts text).length = text.count '=' + 1 := by
  induction text with
  | nil => rfl
  | cons c rest ih =>
    rw [parts]
    by_cases sign : c = '='
    · rw [if_pos sign, sign, List.count_cons_self, List.length_cons, ih]
    · rw [if_neg sign, List.count_cons_of_ne sign, ← ih]
      cases pieces : parts rest with
      | nil => simp [pieces] at ih
      | cons part later => rfl

theorem exists_split (once : text.count '=' = 1) : ∃ before after, Split text before after := by
  have member : '=' ∈ text := List.count_pos_iff.mp (by omega)
  obtain ⟨before, after, rfl, missing⟩ := List.eq_append_cons_of_mem member
  refine ⟨before, after, rfl, missing, List.count_eq_zero.mp ?_⟩
  rw [List.count_append, List.count_eq_zero.mpr missing, List.count_cons_self] at once
  omega

theorem Split.parts_eq (split : Split text before after) : parts text = [before, after] := by
  rw [split.text, parts_append_cons split.before, parts_of_not_mem split.after]

theorem Split.count_eq (split : Split text before after) : text.count '=' = 1 := by
  have pieces := length_parts text
  rw [split.parts_eq] at pieces
  simpa using pieces.symm

/-- A text has only one pair of sides. -/
theorem Split.unique {before' after' : List Char} (split : Split text before after)
    (other : Split text before' after') : before' = before ∧ after' = after := by
  have same := split.parts_eq.symm.trans other.parts_eq
  simpa [eq_comm] using same

/-! ### Trimming the whole and the parts -/

private theorem not_isBlank_sign : Text.isBlank '=' = false := by decide

/-- The sides of a trimmed text trim to the same as those of the text. -/
theorem Split.trimChars (split : Split text before after) : ∃ before' after',
    Split (Text.trimChars text) before' after' ∧
      Text.trimChars before' = Text.trimChars before ∧
      Text.trimChars after' = Text.trimChars after := by
  have trims := Text.trims_trimChars text
  have once : (Text.trimChars text).count '=' = 1 :=
    (trims.count_eq not_isBlank_sign).trans split.count_eq
  obtain ⟨before', after', inner⟩ := exists_split once
  obtain ⟨front, back, whole, blank⟩ := trims.around
  have blankFront : ∀ c ∈ front, Text.isBlank c = true :=
    fun c member => blank c (List.mem_append_left _ member)
  have blankBack : ∀ c ∈ back, Text.isBlank c = true :=
    fun c member => blank c (List.mem_append_right _ member)
  have missing : ∀ {blanks : List Char}, (∀ c ∈ blanks, Text.isBlank c = true) → '=' ∉ blanks :=
    fun blank member => by simpa [not_isBlank_sign] using blank _ member
  have outer : Split text (front ++ before') (after' ++ back) := by
    refine ⟨?_, ?_, ?_⟩
    · rw [whole, inner.text]
      simp only [List.append_assoc, List.cons_append]
    · exact List.not_mem_append (missing blankFront) inner.before
    · exact List.not_mem_append inner.after (missing blankBack)
  obtain ⟨rfl, rfl⟩ := split.unique outer
  refine ⟨before', after', inner, ?_, ?_⟩
  · have around := (Text.trims_trimChars before').surround blankFront (List.forall_mem_nil _)
    rw [List.append_nil] at around
    exact around.trimChars_eq.symm
  · have around := (Text.trims_trimChars after').surround (List.forall_mem_nil _) blankBack
    exact around.trimChars_eq.symm

/-! ### What is read -/

theorem parse_of_count_ne (other : spec.toList.count '=' ≠ 1) :
    parse spec = .error (.malformedSpec (Text.trim spec)) := by
  have trims := Text.trims_trimChars spec.toList
  have pieces := length_parts (Text.trimChars spec.toList)
  rw [trims.count_eq not_isBlank_sign] at pieces
  rw [parse]
  split
  · next pair =>
    rw [pair] at pieces
    exact absurd (by simpa using pieces.symm) other
  · rfl

/-- A text with one equals sign is read by its sides, and the address counts first. -/
theorem parse_of_split (split : Split spec.toList before after) : parse spec =
    if Text.trimChars after = [] then .error (.malformedSpec (Text.trim spec))
    else
      match Decimal.read UInt64.size (Text.trimChars before) with
      | .error fault => .error (.badOperatorId (Text.trim spec) fault)
      | .ok value => .ok (UInt64.ofNat value, String.ofList (Text.trimChars after)) := by
  obtain ⟨before', after', inner, numeral, address⟩ := split.trimChars
  simp only [parse, inner.parts_eq, numeral, address]
  rfl

theorem parse_eq_ok_iff : parse spec = .ok (id, address) ↔ Says spec id address := by
  constructor
  · intro outcome
    have once : spec.toList.count '=' = 1 := by
      by_contra other
      rw [parse_of_count_ne other] at outcome
      simp at outcome
    obtain ⟨before, after, split⟩ := exists_split once
    rw [parse_of_split split] at outcome
    split_ifs at outcome with blank
    cases reading : Decimal.read UInt64.size (Text.trimChars before) with
    | error fault => simp [reading] at outcome
    | ok value =>
      obtain ⟨spells, small⟩ := (Decimal.read_eq_ok_iff (by decide)).mp reading
      simp only [reading, Except.ok.injEq, Prod.mk.injEq] at outcome
      obtain ⟨rfl, rfl⟩ := outcome
      refine ⟨split, Text.trims_trimChars before, ?_, ?_, ?_⟩
      · rwa [UInt64.toNat_ofNat_of_lt' small]
      · rw [String.toList_ofList]
        exact Text.trims_trimChars after
      · rwa [ne_eq, String.ofList_eq_empty_iff]
  · rintro ⟨split, trimmed, spells, located, inhabited⟩
    have reading := (Decimal.read_eq_ok_iff (by decide)).mpr ⟨spells, id.toNat_lt⟩
    rw [parse_of_split split, trimmed.trimChars_eq, located.trimChars_eq, reading,
      if_neg (by rwa [String.toList_eq_nil_iff])]
    simp

theorem Split.malformed_iff (split : Split spec.toList before after) :
    Malformed spec ↔ Text.trimChars after = [] := by
  rw [Text.trimChars_eq_iff, Text.trims_nil_iff]
  constructor
  · rintro (other | ⟨split', blank⟩)
    · exact absurd split.count_eq other
    · obtain ⟨-, rfl⟩ := split.unique split'
      exact blank
  · exact .address split

theorem parse_of_malformed (malformed : Malformed spec) :
    parse spec = .error (.malformedSpec (Text.trim spec)) := by
  by_cases once : spec.toList.count '=' = 1
  · obtain ⟨before, after, split⟩ := exists_split once
    rw [parse_of_split split, if_pos (split.malformed_iff.mp malformed)]
  · exact parse_of_count_ne once

theorem parse_eq_error_iff {error : Error} :
    parse spec = .error error ↔ Refused spec error := by
  have names : Text.Trims spec.toList (Text.trim spec).toList := Text.trim_eq_iff.mp rfl
  constructor
  · intro outcome
    by_cases malformed : Malformed spec
    · rw [parse_of_malformed malformed] at outcome
      cases outcome
      exact .malformed names malformed
    · -- With one sign and an address in place, only the id can be at fault.
      have once : spec.toList.count '=' = 1 := by
        by_contra other
        exact malformed (.signs other)
      obtain ⟨before, after, split⟩ := exists_split once
      rw [parse_of_split split, if_neg (mt split.malformed_iff.mpr malformed)] at outcome
      cases reading : Decimal.read UInt64.size (Text.trimChars before) with
      | ok value => simp [reading] at outcome
      | error fault =>
        simp only [reading, Except.error.injEq] at outcome
        subst outcome
        have faulty := (Decimal.read_eq_error_iff (by decide)).mp reading
        exact .id names malformed split (Text.trims_trimChars before) faulty
  · rintro (⟨names, malformed⟩ | ⟨names, wellFormed, split, trimmed, faulty⟩)
    · rw [parse_of_malformed malformed, Text.trim_eq_iff.mpr names]
    · rw [parse_of_split split, if_neg (mt split.malformed_iff.mpr wellFormed),
        trimmed.trimChars_eq, (Decimal.read_eq_error_iff (by decide)).mpr faulty,
        Text.trim_eq_iff.mpr names]

/-! ### What is written -/

private theorem solid_facts : ∀ d < 10, let digit := Decimal.digitChar d
    Text.isBlank digit = false ∧ digit ≠ '=' := by
  decide

/-- An id is written without blanks and without an equals sign. -/
theorem solid_of_mem_digits {n : Nat} {c : Char} (member : c ∈ Decimal.digits n) :
    Text.isBlank c = false ∧ c ≠ '=' := by
  obtain ⟨d, small, rfl⟩ := Decimal.exists_digitChar member
  exact solid_facts d small

/-- What is written of an id and an address specifies them. -/
theorem says_written (id : OperatorId) (bare : '=' ∉ address.toList)
    (inhabited : Text.trim address ≠ "") :
    Says (id.text ++ "=" ++ address) id (Text.trim address) := by
  have written : (id.text ++ "=" ++ address).toList =
      Decimal.digits id.toNat ++ '=' :: address.toList := by
    simp [OperatorId.text, Decimal.text]
  refine ⟨⟨written, fun member => (solid_of_mem_digits member).2 rfl, bare⟩, ?_,
    Decimal.spells_digits id.toNat, Text.trim_eq_iff.mp rfl, inhabited⟩
  refine ⟨⟨[], [], by simp, by simp⟩, fun c first => ?_, fun c last => ?_⟩
  · exact (solid_of_mem_digits (List.mem_of_mem_head? first)).1
  · exact (solid_of_mem_digits (List.mem_of_mem_getLast? last)).1

/-- A text is read exactly if it has one equals sign between what trims to a numeral below 2^64
and what trims to the address, and is refused for its form before it is refused for its id. An id
and an address that are written down are read back. -/
theorem parse_exact (spec : String) :
    (∀ id address, parse spec = .ok (id, address) ↔ Says spec id address) ∧
    (∀ error, parse spec = .error error ↔ Refused spec error) ∧
    ∀ (id : OperatorId) (address : String), '=' ∉ address.toList → Text.trim address ≠ "" →
      parse (id.text ++ "=" ++ address) = .ok (id, Text.trim address) :=
  ⟨fun _ _ => parse_eq_ok_iff, fun _ => parse_eq_error_iff,
    fun id _ bare inhabited => parse_eq_ok_iff.mpr (says_written id bare inhabited)⟩

theorem parse_padded_address : '=' ∉ " 10.0.0.1:80 ".toList ∧ Text.trim " 10.0.0.1:80 " ≠ "" ∧
    parse ((7 : OperatorId).text ++ "=" ++ " 10.0.0.1:80 ") = .ok (7, Text.trim " 10.0.0.1:80 ") :=
  have bare : '=' ∉ " 10.0.0.1:80 ".toList := by decide
  have inhabited : Text.trim " 10.0.0.1:80 " ≠ "" := by decide
  ⟨bare, inhabited, (parse_exact "").2.2 7 " 10.0.0.1:80 " bare inhabited⟩

example : parse " +007 = 127.0.0.1:80 " = .ok (7, "127.0.0.1:80") := by cbv

end Resharing.Operator.Spec
