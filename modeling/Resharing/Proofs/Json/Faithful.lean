import Mathlib.Data.List.Forall2
import Resharing.Json.Format
import Resharing.Proofs.Json.Parts
import Resharing.Proofs.Json.Texts

/-!
# Formats that read back what they write

A format is faithful when its reader takes every value from where it was written and leaves what
follows. Each way to put formats together keeps this, so it is proved of a format by following
its definition.

## Main definitions

* `Json.Format.Reads`: what was written by anybody is read
* `Json.Format.ReadsBack`: one value is read back
* `Json.Format.Faithful`: all values are

## Main results

* `Json.Format.Faithful.decode_encode`: decoding undoes encoding
* `Json.Format.Faithful.encode_injective`: different values have different written forms
* `Json.Format.faithful_list`, `Json.Format.faithful_option`: lists and options are faithful
-/

namespace Resharing.Json

namespace Format

variable {α β : Type} {format : Format α} {a : α} {tail : Bytes}

/-- Whether a written value is read as something, whatever follows it. -/
def Reads (format : Format α) (value : Value) (a : α) : Prop :=
  ∀ tail, Ends tail → format.read (value.compact ++ tail) = .ok (a, tail)

/-- Whether a value is read back, whatever follows its written form. -/
def ReadsBack (format : Format α) (a : α) : Prop :=
  ∀ tail, Ends tail → format.read (format.encode a ++ tail) = .ok (a, tail)

/-- Whether every value is read back. -/
def Faithful (format : Format α) : Prop := ∀ a, format.ReadsBack a

theorem Reads.decode_compact {value : Value} (reads : format.Reads value a) :
    format.decode value.compact = .ok a := by
  have read := reads [] ends_nil
  rw [List.append_nil] at read
  simp only [decode, read, bind, Except.bind]
  rfl

/-- Decoding undoes encoding. -/
theorem ReadsBack.decode_encode (back : format.ReadsBack a) :
    format.decode (format.encode a) = .ok a :=
  Reads.decode_compact back

/-- Different values have different written forms. -/
theorem Faithful.encode_injective (faithful : format.Faithful) :
    Function.Injective format.encode := by
  intro left right same
  have read : format.decode (format.encode left) = .ok left := (faithful left).decode_encode
  rw [same, (faithful right).decode_encode] at read
  exact (Except.ok.inj read).symm

/-- How a reader that looks at the first byte meets a written value. -/
theorem exists_encode_append (format : Format α) (a : α) (tail : Bytes) : ∃ first rest,
    format.encode a ++ tail = first :: rest ∧ skipSpace (first :: rest) = first :: rest ∧
      (first = ascii 'n' → format.value a = .null) := by
  obtain ⟨first, rest, split, opens, null⟩ := (format.value a).compact_eq_cons
  refine ⟨first, rest ++ tail, ?_, skipSpace_solid opens.solid, null⟩
  rw [encode, split, List.cons_append]

/-! ### Single values -/

theorem readsBack_natural {limit n : Nat} (limited : limit ≤ UInt64.size) (below : n < limit) :
    (natural limit).ReadsBack n :=
  fun _ ends => readNatural_numeral limited below ends

theorem faithful_text : text.Faithful := fun s tail _ => readText_quoted s tail

theorem faithful_bool : bool.Faithful := by
  rintro (_ | _) tail - <;> rfl

theorem ReadsBack.convert {toOld : β → α} {ofOld : α → Option β} {b : β}
    (back : format.ReadsBack (toOld b)) (same : ofOld (toOld b) = some b) :
    (format.convert toOld ofOld).ReadsBack b := by
  intro tail ends
  have written : (format.convert toOld ofOld).encode b = format.encode (toOld b) := rfl
  rw [written]
  simp only [Format.convert, back tail ends, same, bind, Except.bind, pure, Except.pure]

theorem faithful_byte : byte.Faithful := by
  intro b
  apply (readsBack_natural (by decide) b.toNat_lt).convert
  rw [UInt8.ofNat_toNat]

theorem faithful_hex : hex.Faithful := by
  intro bytes
  apply (faithful_text _).convert
  rw [Hex.decode_encode]
  rfl

theorem faithful_choice {name : α → String} {all : List α}
    (found : ∀ a, (all.map fun a => (name a, a)).lookup (name a) = some a) :
    (choice name all).Faithful := by
  intro a tail _
  have read : readTextBody ((Bytes.ofText (name a)).flatMap escape ++ quote :: tail) =
      .ok (name a, tail) := readTextBody_escape (name a) tail
  have written : (choice name all).encode a ++ tail = _ := quoted_append (name a) tail
  rw [written]
  simp only [choice, readChoice, skipSpace_solid opens_quote.solid, if_true, read, found a, bind,
    Except.bind, pure, Except.pure]

/-! ### Options and lists -/

/-- Nothing is told from a value as long as no value is written as `null`. -/
theorem faithful_option (faithful : format.Faithful) (solid : ∀ a, format.value a ≠ .null) :
    format.option.Faithful := by
  rintro (_ | a) tail ends
  · rfl
  · -- The reader decides by the first byte, which no other value shares with `null`.
    obtain ⟨first, rest, split, start, null⟩ := exists_encode_append format a tail
    have other : first ≠ ascii 'n' := fun same => solid a (null same)
    have read : format.read (first :: rest) = .ok (a, tail) := split ▸ faithful a tail ends
    have written : format.option.encode (some a) ++ tail = first :: rest := split
    rw [written]
    simp only [option, readOption, start, if_neg other, read, Except.map]

/-- The items of a list are read one by one, whoever has written them. -/
theorem readItems_parted {values : List Value} {items : List α}
    (reads : List.Forall₂ format.Reads values items) (tail : Bytes) {fuel : Nat} (first : Bool)
    (enough : values.length < fuel) :
    readItems format.read fuel first
        (parted first (values.map Value.compact) ++ ascii ']' :: tail) = .ok (items, tail) := by
  obtain ⟨fuel, rfl⟩ : ∃ less, fuel = less + 1 := ⟨fuel - 1, by omega⟩
  induction reads generalizing fuel first with
  | nil =>
    rw [List.map_nil, parted_nil, List.nil_append, readItems]
    simp only [nextPart_closed closes_list, expectSign_closed closes_list, bind, Except.bind, pure,
      Except.pure]
  | @cons value item rest items reads _ ih =>
    obtain ⟨fuel, rfl⟩ : ∃ less, fuel = less + 1 :=
      ⟨fuel - 1, by rw [List.length_cons] at enough; omega⟩
    have next := nextPart_parted closes_list value.opening_compact first
      (rest.map Value.compact) (ascii ']' :: tail)
    have read := reads _ (ends_parted closes_list (rest.map Value.compact) tail)
    have later := ih false fuel (Nat.lt_of_succ_lt_succ enough)
    rw [List.map_cons, readItems]
    simp only [next, read, later, bind, Except.bind, pure, Except.pure]

theorem reads_list {values : List Value} {items : List α}
    (reads : List.Forall₂ format.Reads values items) :
    (list format).Reads (.list values) items := by
  intro tail _
  have enough := Value.length_le_items values
  have solid : isSpace (ascii '[') = false := by decide
  rw [Value.compact_list_append]
  simp only [list, readList, skipSpace_solid solid, if_true]
  apply readItems_parted reads
  rw [List.length_append]
  omega

theorem faithful_list (faithful : format.Faithful) : (list format).Faithful := by
  intro items
  refine reads_list (List.forall₂_map_left_iff.mpr ?_)
  exact List.forall₂_same.mpr fun item _ => faithful item

theorem faithful_bytes : bytes.Faithful := faithful_list faithful_byte

end Format

end Resharing.Json
